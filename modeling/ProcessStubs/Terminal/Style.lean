import ProcessStubs.Data.Value
import ProcessStubs.Terminal.Escape

/-!
# Styles

A styled text begins with the sequences of its style: the colour of the letters, the one behind
them, and the effects in their order. It ends with the plain look unless the style is left open.

Main definition: `Style.ofFields` reads a style from fields whose values are of any type.
-/

namespace ProcessStubs.Terminal

/-- The colours of a terminal; `standard` is the one it begins with. -/
inductive Colour where
  | black
  | red
  | green
  | yellow
  | blue
  | magenta
  | cyan
  | white
  | standard
  | brightBlack
  | brightRed
  | brightGreen
  | brightYellow
  | brightBlue
  | brightMagenta
  | brightCyan
  | brightWhite
deriving Repr, DecidableEq

namespace Colour

/-- The name of a colour. -/
def name : Colour → String
  | black => "black"
  | red => "red"
  | green => "green"
  | yellow => "yellow"
  | blue => "blue"
  | magenta => "magenta"
  | cyan => "cyan"
  | white => "white"
  | standard => "reset"
  | brightBlack => "bright_black"
  | brightRed => "bright_red"
  | brightGreen => "bright_green"
  | brightYellow => "bright_yellow"
  | brightBlue => "bright_blue"
  | brightMagenta => "bright_magenta"
  | brightCyan => "bright_cyan"
  | brightWhite => "bright_white"

/-- The number of the look with a colour. -/
def code : Colour → Nat
  | black => 30
  | red => 31
  | green => 32
  | yellow => 33
  | blue => 34
  | magenta => 35
  | cyan => 36
  | white => 37
  | standard => 39
  | brightBlack => 90
  | brightRed => 91
  | brightGreen => 92
  | brightYellow => 93
  | brightBlue => 94
  | brightMagenta => 95
  | brightCyan => 96
  | brightWhite => 97

/-- All colours. -/
def all : List Colour := [
  black, red, green, yellow, blue, magenta, cyan, white, standard, brightBlack, brightRed,
  brightGreen, brightYellow, brightBlue, brightMagenta, brightCyan, brightWhite]

/-- The colour of a name. -/
def ofName? (s : String) : Option Colour := all.find? (·.name == s)

/-- Every colour is found by its name. -/
theorem ofName?_name (c : Colour) : ofName? c.name = some c := by cases c <;> decide

end Colour

/-- What a colour is given by: its name, its number in a palette of 256, or its shares of red, green
and blue. -/
inductive Hue where
  | named (c : Colour)
  | palette (n : Nat)
  | mixed (red green blue : Nat)
deriving Repr, DecidableEq

/-- What is added to the number of a look to have it behind the letters. -/
def behind : Nat := 10

/-- The numbers of the look with a hue, `offset` added to the first. -/
def Hue.numbers (offset : Nat) : Hue → List Nat
  | named c => [c.code + offset]
  | palette n => [38 + offset, 5, n]
  | mixed r g b => [38 + offset, 2, r, g, b]

/-- What letters can look like besides their colour. -/
inductive Effect where
  | bold
  | dim
  | underline
  | overline
  | italic
  | blink
  | reverse
  | strikethrough
deriving Repr, DecidableEq

namespace Effect

/-- The name of an effect. -/
def name : Effect → String
  | bold => "bold"
  | dim => "dim"
  | underline => "underline"
  | overline => "overline"
  | italic => "italic"
  | blink => "blink"
  | reverse => "reverse"
  | strikethrough => "strikethrough"

/-- The number of the look with an effect, or without it. -/
def code (on : Bool) : Effect → Nat
  | bold => if on then 1 else 22
  | dim => if on then 2 else 22
  | underline => if on then 4 else 24
  | overline => if on then 53 else 55
  | italic => if on then 3 else 23
  | blink => if on then 5 else 25
  | reverse => if on then 7 else 27
  | strikethrough => if on then 9 else 29

/-- All effects, in the order in which they are set. -/
def all : List Effect := [bold, dim, underline, overline, italic, blink, reverse, strikethrough]

end Effect

/-- A style: hues, effects that are set or taken away, and whether the plain look follows. -/
structure Style where
  letters : Option Hue
  ground : Option Hue
  effects : List (Effect × Bool)
  closed : Bool
deriving Repr, DecidableEq

namespace Style

/-- The style that sets nothing. -/
def plain : Style := ⟨none, none, [], true⟩

/-- The numbers of the looks of a style. -/
def looks (s : Style) : List (List Nat) :=
  (s.letters.map (Hue.numbers 0)).toList ++ (s.ground.map (Hue.numbers behind)).toList ++
    s.effects.map fun (e, on) => [e.code on]

/-- The text in a style. -/
def apply (s : Style) (text : String) : String :=
  String.join (s.looks.map lookOf) ++ text ++ (if s.closed then plainLook else "")

end Style

/-- The style that sets a colour only. -/
def Colour.style (c : Colour) : Style := { Style.plain with letters := some (.named c) }

/-- The style that sets bold letters only. -/
def boldStyle : Style := { Style.plain with effects := [(.bold, true)] }

/-! ### Styles from fields -/

/-- Why there is no style: a value is no colour, or a field is none of a style. -/
inductive StyleFault where
  | noColour (given : Value)
  | unknownField (key : String)
deriving Repr, BEq

/-- The number of a palette, or the share of a colour, that a value is. -/
def shareOf? (v : Value) : Option Nat :=
  v.integer?.bind fun n => if 0 ≤ n ∧ n ≤ 255 then some n.toNat else none

/-- The hue that a value is. -/
def Hue.ofValue? (v : Value) : Option Hue :=
  match v with
  | .text s => (Colour.ofName? s).map .named
  | .list items =>
    match items.map shareOf? with
    | [some r, some g, some b] => some (.mixed r g b)
    | _ => none
  | _ => (shareOf? v).map .palette

/-- The hue of a field, if the field is there and not nothing. -/
def hueOf (fields : List (String × Value)) (key : String) : Except StyleFault (Option Hue) :=
  match (Value.table fields).field? key with
  | none | some .null => .ok none
  | some v =>
    match Hue.ofValue? v with
    | some h => .ok (some h)
    | none => .error (.noColour v)

/-- The names of the fields of a style. -/
def styleFields : List String := ["fg", "bg", "reset"] ++ Effect.all.map Effect.name

/-- The style of fields. An effect whose value is nothing is left as it is. -/
def Style.ofFields (fields : List (String × Value)) : Except StyleFault Style := do
  if let some (key, _) := fields.find? fun f => !styleFields.contains f.1 then
    throw (.unknownField key)
  let given (key : String) : Option Value := (Value.table fields).field? key
  let letters ← hueOf fields "fg"
  let ground ← hueOf fields "bg"
  return {
    letters := letters
    ground := ground
    effects := Effect.all.filterMap fun e =>
      (given e.name).bind fun v => if v.isNull then none else some (e, v.isTrue)
    closed := (given "reset").all Value.isTrue }

end ProcessStubs.Terminal
