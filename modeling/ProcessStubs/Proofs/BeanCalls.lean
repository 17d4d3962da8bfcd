import Mathlib.Data.List.TakeWhile
import ProcessStubs.BeanCall

/-!
# Which expressions call beans

An expression is a call exactly if it is written for a bean and a method, and it is written for at
most one of each: the first period ends the name of the bean, since none stands in it, and what
follows the name of the method is fixed. Braces and parentheses may stand in both names, but for the
opening parenthesis in that of the method.

## Main results

* `ofExpressionChars?_eq_some_iff`: reading a call is the converse of writing it.
* `expression_injective`: an expression is written for at most one bean and one method.
* `match?_exact`: which implementations are calls, and of what.
-/

namespace ProcessStubs

namespace BeanCall

/-- A text that may name a bean: it is not empty and holds no period. -/
def IsBean (s : String) : Prop := s ≠ "" ∧ '.' ∉ s.toList

/-- A text that may name a method: it is not empty and holds neither a period nor an opening
parenthesis. -/
def IsMethod (s : String) : Prop := s ≠ "" ∧ '.' ∉ s.toList ∧ '(' ∉ s.toList

instance (s : String) : Decidable (IsBean s) := inferInstanceAs (Decidable (_ ∧ _))

instance (s : String) : Decidable (IsMethod s) := inferInstanceAs (Decidable (_ ∧ _))

/-- The expression of a call of a method of a bean. -/
def expression (bean method : String) : String := "$\x7b" ++ bean ++ "." ++ method ++ "()\x7d"

/-- The characters of an expression are those of its names between fixed ones. -/
theorem toList_expression (bean method : String) :
    (expression bean method).toList = expressionChars bean.toList method.toList := by
  simp [expression, expressionChars]

/-- **What is read is what is written**: if names are read from an expression, the expression is
written for them. -/
theorem eq_expressionChars_of_read {cs bean method : List Char}
    (h : ofExpressionChars? cs = some (bean, method)) :
    cs = expressionChars bean method ∧ (bean ≠ [] ∧ ∀ c ∈ bean, isBeanChar c = true) ∧
      method ≠ [] ∧ ∀ c ∈ method, isMethodChar c = true := by
  unfold ofExpressionChars? at h
  split at h
  · next rest =>
      split at h
      · next rest' found =>
          dsimp only at h
          split at h
          · next valid =>
              obtain ⟨hbean, hmethod, closed⟩ := valid
              obtain ⟨rfl, rfl⟩ := Prod.mk.inj (Option.some.inj h)
              have tail : rest' = rest'.takeWhile isMethodChar ++ ['(', ')', '\x7d'] := by
                rw [← closed, List.takeWhile_append_dropWhile]
              have whole : rest = rest.takeWhile isBeanChar ++ '.' :: rest' := by
                rw [← found, List.takeWhile_append_dropWhile]
              refine ⟨?_, ⟨hbean, fun c => List.mem_takeWhile_imp⟩, hmethod,
                fun c => List.mem_takeWhile_imp⟩
              rw [expressionChars, ← tail, ← whole]
          · cases h
      · cases h
  · cases h

/-- **What is written is read again**, if the names may be those of a bean and of a method. -/
theorem ofExpressionChars?_expressionChars {bean method : List Char}
    (hbean : bean ≠ [] ∧ ∀ c ∈ bean, isBeanChar c = true)
    (hmethod : method ≠ [] ∧ ∀ c ∈ method, isMethodChar c = true) :
    ofExpressionChars? (expressionChars bean method) = some (bean, method) := by
  have period : isBeanChar '.' = false := rfl
  have parenthesis : isMethodChar '(' = false := rfl
  have takenBean (rest : List Char) : (bean ++ '.' :: rest).takeWhile isBeanChar = bean := by
    rw [List.takeWhile_append_of_pos hbean.2, List.takeWhile_cons_of_neg (by simp [period]),
      List.append_nil]
  have leftBean (rest : List Char) :
      (bean ++ '.' :: rest).dropWhile isBeanChar = '.' :: rest := by
    rw [List.dropWhile_append_of_pos hbean.2, List.dropWhile_cons_of_neg (by simp [period])]
  have takenMethod : (method ++ ['(', ')', '\x7d']).takeWhile isMethodChar = method := by
    rw [List.takeWhile_append_of_pos hmethod.2,
      List.takeWhile_cons_of_neg (by simp [parenthesis]), List.append_nil]
  have leftMethod :
      (method ++ ['(', ')', '\x7d']).dropWhile isMethodChar = ['(', ')', '\x7d'] := by
    rw [List.dropWhile_append_of_pos hmethod.2,
      List.dropWhile_cons_of_neg (by simp [parenthesis])]
  simp only [ofExpressionChars?, expressionChars, leftBean, takenBean, takenMethod, leftMethod]
  exact if_pos ⟨hbean.1, hmethod.1, trivial⟩

/-- **Reading is the converse of writing**, for names that may be those of a bean and of a
method. -/
theorem ofExpressionChars?_eq_some_iff {cs bean method : List Char} :
    ofExpressionChars? cs = some (bean, method) ↔
      cs = expressionChars bean method ∧ (bean ≠ [] ∧ ∀ c ∈ bean, isBeanChar c = true) ∧
        method ≠ [] ∧ ∀ c ∈ method, isMethodChar c = true := by
  constructor
  · exact eq_expressionChars_of_read
  · rintro ⟨rfl, hbean, hmethod⟩
    exact ofExpressionChars?_expressionChars hbean hmethod

/-- Which texts may name a bean, by their characters. -/
theorem isBean_iff {s : String} :
    IsBean s ↔ s.toList ≠ [] ∧ ∀ c ∈ s.toList, isBeanChar c = true := by
  have chars : '.' ∉ s.toList ↔ ∀ c ∈ s.toList, isBeanChar c = true := by
    simp only [isBeanChar, bne_iff_ne]
    exact ⟨fun h c hc heq => h (heq ▸ hc), fun h hc => h _ hc rfl⟩
  rw [IsBean, chars, ne_eq, ne_eq, String.toList_eq_nil_iff]

/-- Which texts may name a method, by their characters. -/
theorem isMethod_iff {s : String} :
    IsMethod s ↔ s.toList ≠ [] ∧ ∀ c ∈ s.toList, isMethodChar c = true := by
  have chars : ('.' ∉ s.toList ∧ '(' ∉ s.toList) ↔ ∀ c ∈ s.toList, isMethodChar c = true := by
    simp only [isMethodChar, Bool.and_eq_true, bne_iff_ne]
    constructor
    · rintro ⟨period, parenthesis⟩ c hc
      exact ⟨fun heq => period (heq ▸ hc), fun heq => parenthesis (heq ▸ hc)⟩
    · intro h
      exact ⟨fun hc => (h _ hc).1 rfl, fun hc => (h _ hc).2 rfl⟩
  rw [IsMethod, chars, ne_eq, ne_eq, String.toList_eq_nil_iff]

/-- **Which expressions are calls**: those that are written for a bean and a method. -/
theorem ofExpression?_eq_some_iff {s bean method : String} :
    ofExpression? s = some ⟨bean, method⟩ ↔
      s = expression bean method ∧ IsBean bean ∧ IsMethod method := by
  have read : ofExpression? s = some ⟨bean, method⟩ ↔
      ofExpressionChars? s.toList = some (bean.toList, method.toList) := by
    rw [ofExpression?, Option.map_eq_some_iff]
    constructor
    · rintro ⟨⟨b, m⟩, hread, heq⟩
      obtain ⟨rfl, rfl⟩ := BeanCall.mk.inj heq
      rw [String.toList_ofList, String.toList_ofList]
      exact hread
    · intro hread
      refine ⟨_, hread, ?_⟩
      simp only [String.ofList_toList]
  rw [read, ofExpressionChars?_eq_some_iff, isBean_iff, isMethod_iff, ← toList_expression,
    String.toList_inj]

/-- An implementation is a call exactly if it is an expression and that is a call. -/
theorem match?_eq_some_iff {way reference : Option String} {bean method : String} :
    match? way reference = some ⟨bean, method⟩ ↔
      way = some "expression" ∧ reference = some (expression bean method) ∧
        IsBean bean ∧ IsMethod method := by
  have name : BindingForm.expression.name = "expression" := rfl
  rw [match?, name]
  by_cases h : way = some "expression"
  · rw [if_pos h, Option.bind_eq_some_iff]
    constructor
    · rintro ⟨s, rfl, read⟩
      obtain ⟨rfl, names⟩ := ofExpression?_eq_some_iff.mp read
      exact ⟨h, rfl, names⟩
    · rintro ⟨-, rfl, names⟩
      exact ⟨_, rfl, ofExpression?_eq_some_iff.mpr ⟨rfl, names⟩⟩
  · simp [h]

/-- An expression is written for at most one bean and one method. -/
theorem expression_injective {bean method bean' method' : String}
    (hbean : IsBean bean) (hmethod : IsMethod method) (hbean' : IsBean bean')
    (hmethod' : IsMethod method') (h : expression bean method = expression bean' method') :
    bean = bean' ∧ method = method' := by
  have read := ofExpression?_eq_some_iff.mpr ⟨rfl, hbean, hmethod⟩
  have read' := ofExpression?_eq_some_iff.mpr ⟨h, hbean', hmethod'⟩
  rw [read] at read'
  exact BeanCall.mk.inj (Option.some.inj read')

/-- **Calls are read exactly as they are written.** What is read of an implementation is a call of a
method of a bean exactly if it is an expression that is written for them; so each expression is
written for at most one bean and one method, these are read from it again, and whatever is written
in no such way, or not at all, is no call. -/
theorem match?_exact :
    (∀ (way reference : Option String) (bean method : String),
      match? way reference = some ⟨bean, method⟩ ↔
        way = some "expression" ∧ reference = some (expression bean method) ∧
          IsBean bean ∧ IsMethod method) ∧
    (∀ bean method bean' method' : String, IsBean bean → IsMethod method → IsBean bean' →
      IsMethod method' → expression bean method = expression bean' method' →
        bean = bean' ∧ method = method') ∧
    (∀ bean method : String, IsBean bean → IsMethod method →
      match? (some "expression") (some (expression bean method)) = some ⟨bean, method⟩) ∧
    ∀ way reference : Option String, match? way reference = none ↔
      ¬ ∃ bean method, way = some "expression" ∧ reference = some (expression bean method) ∧
        IsBean bean ∧ IsMethod method := by
  refine ⟨fun _ _ _ _ => match?_eq_some_iff, fun _ _ _ _ => expression_injective, ?_, ?_⟩
  · intro bean method hbean hmethod
    exact match?_eq_some_iff.mpr ⟨rfl, rfl, hbean, hmethod⟩
  · intro way reference
    rw [Option.eq_none_iff_forall_ne_some]
    constructor
    · rintro h ⟨bean, method, written⟩
      exact h _ (match?_eq_some_iff.mpr written)
    · rintro h ⟨bean, method⟩ read
      exact h ⟨bean, method, match?_eq_some_iff.mp read⟩

/-- Names may look like parts of an expression: only the first period and the end count. -/
theorem match?_exact_braces :
    IsBean "$\x7ba(" ∧ IsMethod ")\x7d\x7b" ∧
      match? (some "expression") (some "$\x7b$\x7ba(.)\x7d\x7b()\x7d") =
        some ⟨"$\x7ba(", ")\x7d\x7b"⟩ := by
  have bean : IsBean "$\x7ba(" := by decide
  have method : IsMethod ")\x7d\x7b" := by decide
  exact ⟨bean, method, match?_exact.2.2.1 _ _ bean method⟩

end BeanCall

end ProcessStubs
