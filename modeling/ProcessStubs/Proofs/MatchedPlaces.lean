import ProcessStubs.Proofs.FoundDocuments

/-!
# Where documents are matched

Patterns are written for the places of documents below the source directory. What they are matched
against is the place that a document leads to: the names from the directory to the file itself, or
the whole path of the document as it was found if the file is elsewhere. For a document that is a
file these are its own names. For a link they are those of another file, and its own names do not
count.

## Main definitions

* `FileTree.matchedAs`: what a document is matched as, by where it leads.

## Main results

* `FileTree.matchText_eq`: patterns are matched against that.
* `FileTree.Reached.location_eq`: what is led to and is no link leads to itself.
* `FileTree.excluded_by_place`: which documents patterns leave out.
-/

namespace ProcessStubs

open Exclusion Text

namespace FileTree

variable {t : FileTree} {root p : Path} {l m : Location} {names : List String} {e e' : FileEntry}

/-- What a document below a location is matched as that leads to another location: the names on the
way from the one to the other, or its own path without a slash at its start. -/
def matchedAs (l m : Location) (p : Path) : List Char :=
  if l.isPrefixOf m then (joinWith "/" (m.drop l.length)).toList
  else
    match p.toString.toList with
    | '/' :: rest => rest
    | cs => cs

/-- **Patterns are matched** against where a document leads. -/
theorem matchText_eq (proper : t.Proper) (normal : root.IsNormal) (opens : t.Opens root l)
    (normal' : p.IsNormal) (located : t.locate .target p = .ok (.taken m e)) :
    t.matchText root p = .ok (matchedAs l m p) := by
  rw [matchText, realPath_of_locate proper normal opens, realPath_of_locate proper normal' located,
    ok_bind, ok_bind, matchedAs]
  split
  · rfl
  · generalize p.toString.toList = written
    cases written with
    | nil => rfl
    | cons c rest => by_cases slash : c = '/' <;> simp [slash, pure, Except.pure]

/-- What leads below a location by some names is matched as these names. -/
theorem matchedAs_append (l : Location) (names : List String) (p : Path) :
    matchedAs l (l ++ names) p = (joinWith "/" names).toList := by
  rw [matchedAs, if_pos (List.isPrefixOf_iff_prefix.mpr (List.prefix_append l names)),
    List.drop_left]

/-! ### Ways along directories -/

/-- A way goes on to an entry that is no link. -/
theorem Leads.concat {here mid : Location} {name : String} {n : Nat}
    (h : t.Leads here names mid n) (named : name ≠ "..")
    (found : t.entryAt? (mid ++ [name]) = some e) (ends : IsEnd e) :
    t.Leads here (names ++ [name]) (mid ++ [name]) n := by
  induction h with
  | done => exact .entry named found ends .done
  | up _ ih => exact .up (ih found)
  | entry named' found' ends' _ ih => exact .entry named' found' ends' (ih found)
  | link named' found' inner _ _ ih => exact .link named' found' inner (ih found)

/-- The name of an entry is not two dots. -/
theorem Proper.ne_dots (proper : t.Proper) {name : String}
    (found : t.entryAt? (l ++ [name]) = some e) : name ≠ ".." := by
  have listed := (eq_or_mem_of_entryAt? found).resolve_left (by simp)
  exact (proper.named _ listed name (by simp)).2

/-- The names that directories lead to are a way without links. -/
theorem Reached.leads (h : t.Reached l names e) (proper : t.Proper) (ends : IsEnd e) :
    t.Leads l names (l ++ names) 0 := by
  induction h with
  | child _ found => exact .entry (proper.ne_dots found) found ends .done
  | @deeper names name e _ found ih =>
      rw [← List.append_assoc] at found ⊢
      exact (ih nofun).concat (proper.ne_dots found) found ends

/-- **What is led to and is no link** leads to itself, if its path leads anywhere. -/
theorem Reached.location_eq (h : t.Reached l names e) (proper : t.Proper) (normal : root.IsNormal)
    (opens : t.Opens root l) (ends : IsEnd e)
    (located : t.locate .target (root.below names) = .ok (.taken m e')) : m = l ++ names := by
  -- The way along the names of the root leads to its location, and the way from there to the entry.
  obtain ⟨n, toRoot⟩ := exists_leads_of_walk_taken proper normal (walks_of_locate opens).walk_eq
  have walked : t.walk .target maxLinks (t.origin root) (root.parts ++ names) = .ok (.taken m e') :=
    (walks_of_locate located).walk_eq
  obtain ⟨mid, n', before, after⟩ := exists_leads_of_walk proper normal walked
  obtain ⟨rfl, -⟩ := before.unique toRoot
  have normal' : ∀ name ∈ names, IsNormalName name := fun name hname =>
    h.isNormal proper normal name (List.mem_append_right _ hname)
  obtain ⟨n'', way⟩ := exists_leads_of_walk_taken proper normal' after
  exact (way.unique (h.leads proper ends)).1

/-! ### Which documents are left out -/

/-- A document is left out exactly if patterns exclude what it is matched as. -/
theorem not_mem_files_selection_iff (proper : t.Proper) (normal : root.IsNormal)
    (opens : t.Opens root l) {documents : List Path}
    (collected : t.documentsBelow root l = .ok documents) (patterns : List Pattern)
    (document : t.DocumentBelow root l p) (located : t.locate .target p = .ok (.taken m e)) :
    p ∉ (t.selection root patterns documents).files ↔
      isExcluded patterns (matchedAs l m p) = true := by
  have found := (mem_documentsBelow_iff collected).mpr document
  obtain ⟨⟨names, _, reached, rfl⟩, -⟩ := document
  have matched := matchText_eq proper normal opens (reached.isNormal proper normal) located
  rw [mem_files_selection matched, not_and, Bool.not_eq_false]
  exact forall_prop_of_true found

/-- **Which documents patterns leave out**, if nothing stops looking for documents: exactly
those that patterns exclude by where they lead. So a document that is no link is left out exactly if
patterns exclude its own names below the directory. A link is left out by its own names exactly if
the patterns decide about them as they do about what it leads to. -/
theorem excluded_by_place (proper : t.Proper) (normal : root.IsNormal) (opens : t.Opens root l)
    (walkable : t.Walkable root l) {excludes : List Value} {patterns : List Pattern}
    (valid : patternsOf excludes = .ok patterns) :
    ∃ found, t.discover root excludes = .ok found ∧
      ∀ names e, t.Reached l names e → t.DocumentBelow root l (root.below names) →
        ∃ m e', t.locate .target (root.below names) = .ok (.taken m e') ∧ e'.isFile = true ∧
          (root.below names ∉ found.files ↔
            isExcluded patterns (matchedAs l m (root.below names)) = true) ∧
          (IsEnd e → m = l ++ names ∧
            (root.below names ∉ found.files ↔
              isExcluded patterns (joinWith "/" names).toList = true)) ∧
          ((root.below names ∉ found.files ↔
              isExcluded patterns (joinWith "/" names).toList = true) ↔
            isExcluded patterns (matchedAs l m (root.below names)) =
              isExcluded patterns (joinWith "/" names).toList) := by
  obtain ⟨documents, collected, discovered⟩ := exists_discover proper normal opens walkable valid
  refine ⟨_, discovered, fun names e reached document => ?_⟩
  obtain ⟨m, e', located, isFile⟩ := document.file
  have decided :=
    not_mem_files_selection_iff proper normal opens collected patterns document located
  refine ⟨m, e', located, isFile, decided, fun ends => ?_, ?_⟩
  · obtain rfl := reached.location_eq proper normal opens ends located
    rw [matchedAs_append] at decided
    exact ⟨rfl, decided⟩
  · rw [decided]
    exact Bool.eq_iff_iff.symm

/-- The pattern of a directory, which excludes what is below it and not what leads there. -/
theorem isExcluded_sub :
    patternsOf [.text "sub/"] = .ok (["sub/"].filterMap ruleOf?) ∧
      isExcluded (["sub/"].filterMap ruleOf?) "sub/b.bpmn".toList = true ∧
      isExcluded (["sub/"].filterMap ruleOf?) "a.bpmn".toList = false :=
  ⟨patternsOf_eq_ok_iff.mpr ⟨by decide +kernel, rfl⟩, by decide +kernel, by decide +kernel⟩

/-- The document in the directory is left out by its own names. -/
theorem excluded_by_place_sub :
    ∃ found, linkedTree.discover ⟨.root, []⟩ [.text "sub/"] = .ok found ∧
      linkedTree.Reached [] ["sub", "b.bpmn"] (.file ByteArray.empty) ∧
      ⟨.root, ["sub", "b.bpmn"]⟩ ∉ found.files := by
  obtain ⟨opens, -, located, -⟩ := linkedTree_locate
  obtain ⟨valid, excluded, -⟩ := isExcluded_sub
  obtain ⟨found, discovered, decided⟩ :=
    excluded_by_place linkedTree_proper Path.isNormal_root opens linkedTree_walkable valid
  have folder : linkedTree.Reached [] ["sub"] .directory := .child rfl rfl
  have reached : linkedTree.Reached [] ["sub", "b.bpmn"] (.file ByteArray.empty) :=
    .deeper folder rfl
  have named : (⟨.root, ["sub", "b.bpmn"]⟩ : Path).isDocumentName = true := by decide +kernel
  obtain ⟨m, e', -, -, -, own, -⟩ :=
    decided _ _ reached ⟨⟨_, _, reached, rfl⟩, named, _, _, located, rfl⟩
  exact ⟨found, discovered, reached, (own nofun).2.mpr excluded⟩

/-- **A link is left out by what it leads to**: the pattern of a directory leaves out a link beside
the directory, whose own names it does not exclude. -/
theorem not_excluded_by_names_link :
    linkedTree.Proper ∧ linkedTree.Opens ⟨.root, []⟩ [] ∧
      patternsOf [.text "sub/"] = .ok (["sub/"].filterMap ruleOf?) ∧
      linkedTree.DocumentBelow ⟨.root, []⟩ [] ⟨.root, ["a.bpmn"]⟩ ∧
      isExcluded (["sub/"].filterMap ruleOf?) "a.bpmn".toList = false ∧
      ∃ found, linkedTree.discover ⟨.root, []⟩ [.text "sub/"] = .ok found ∧
        ⟨.root, ["a.bpmn"]⟩ ∉ found.files := by
  obtain ⟨opens, -, -, located⟩ := linkedTree_locate
  obtain ⟨valid, excluded, kept⟩ := isExcluded_sub
  obtain ⟨-, document⟩ := linkedTree_document
  obtain ⟨documents, collected, discovered⟩ :=
    exists_discover linkedTree_proper Path.isNormal_root opens linkedTree_walkable valid
  refine ⟨linkedTree_proper, opens, valid, document, kept, _, discovered, ?_⟩
  exact (not_mem_files_selection_iff linkedTree_proper Path.isNormal_root opens collected _ document
    located).mpr excluded

end FileTree

end ProcessStubs
