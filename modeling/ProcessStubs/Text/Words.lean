import ProcessStubs.Text.Blank
import ProcessStubs.Text.CaseMap

/-!
# Type names from display names

`pascalCase` joins the words of a text, each with its first character in upper case and the others
in lower case. Blanks, hyphens and underscores separate words. `capitalized` touches the first
character only.
-/

namespace ProcessStubs.Text

/-- Whether a character separates words. -/
def isSeparator (c : Char) : Bool := isBlank c || c == '-' || c == '_'

/-- Joins the words of a text. The flag says whether the next character begins a word. -/
def pascalChars : Bool → List Char → List Char
  | _, [] => []
  | start, c :: rest =>
    if isSeparator c then pascalChars true rest
    else (if start then upper c else lower c) :: pascalChars false rest

/-- The words of a text, capitalized and joined without separators. -/
def pascalCase (s : String) : String := String.ofList (pascalChars true s.toList)

/-- The text with its first character in upper case and the rest untouched. -/
def capitalized (s : String) : String :=
  match s.toList with
  | [] => ""
  | c :: rest => String.ofList (upper c :: rest)

/-- A separator ends the word before it, and what follows it begins a word. -/
theorem pascalChars_append (start : Bool) (a b : List Char) (c : Char)
    (h : isSeparator c = true) :
    pascalChars start (a ++ c :: b) = pascalChars start a ++ pascalChars true b := by
  induction a generalizing start with
  | nil => simp [pascalChars, h]
  | cons d r ih => by_cases hd : isSeparator d = true <;> simp [pascalChars, hd, ih]

end ProcessStubs.Text
