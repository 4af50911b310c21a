import Descent.Unicode.GraphemeBreak
import Descent.Unicode.Symbols

set_option autoImplicit false

/-!
Grapheme clusters: what a reader takes for one character, such as a letter with its accents, a
syllable of Korean, a flag or a pictograph made of several.

The text is read from left to right. What decides whether a cluster ends before a character is the
break class of the character before it and three facts about the cluster so far, kept in `Reach`.
-/

namespace Descent.Text

/-- How a character takes part in the breaking of clusters. -/
inductive BreakClass where
  | carriageReturn
  | lineFeed
  | control
  | extend
  | joiner
  | spacingMark
  | prepend
  | regional
  | leading
  | vowel
  | trailing
  | openSyllable
  | closedSyllable
  | other
  deriving DecidableEq, Repr

/-- The break class that a short name of the table stands for. -/
def BreakClass.ofName : String → BreakClass
  | "CR" => .carriageReturn
  | "LF" => .lineFeed
  | "CN" => .control
  | "EX" => .extend
  | "ZWJ" => .joiner
  | "SM" => .spacingMark
  | "PP" => .prepend
  | "RI" => .regional
  | "L" => .leading
  | "V" => .vowel
  | "T" => .trailing
  | "LV" => .openSyllable
  | "LVT" => .closedSyllable
  | _ => .other

/-- The break class of a character. The characters of ASCII need no table. -/
def BreakClass.ofChar (char : Char) : BreakClass :=
  if char.toNat < 0x80 then
    if char = '\r' then .carriageReturn
    else if char = '\n' then .lineFeed
    else if char.toNat < 0x20 || char.toNat == 0x7F then .control
    else .other
  else .ofName (Unicode.graphemeBreak.valueAt char.toNat)

/-- How far a consonant cluster has come: whether it has a consonant, and a linker after it. -/
inductive Conjunct where
  | none
  | consonant
  | linked
  deriving DecidableEq, Repr

/-- Whether a pictograph can still be continued: it is followed by extending characters only, or
these and one joiner at the end. -/
inductive Pictograph where
  | none
  | extended
  | joined
  deriving DecidableEq, Repr

/-- What must be known of the text before a possible break. -/
structure Reach where
  /-- The class of the last character. -/
  last : BreakClass
  /-- The consonant cluster that ends with it. -/
  conjunct : Conjunct
  /-- The pictograph that ends with it. -/
  pictograph : Pictograph
  /-- Whether an odd number of regional indicators ends with it. -/
  oddRegional : Bool
  deriving DecidableEq, Repr

/-- Whether a character keeps a consonant cluster open without linking it. -/
def keepsConjunct (char : Char) (kind : BreakClass) : Bool :=
  kind == .joiner || (kind == .extend && char.toNat != 0x200C)

/-- The reach after one more character, given the reach before it, if any. -/
def Reach.after (before : Option Reach) (char : Char) : Reach :=
  let kind := BreakClass.ofChar char
  let conjunct : Conjunct :=
    if char.toNat < 0x80 then .none
    else if Unicode.conjunctConsonant.contains char.toNat then .consonant
    else
      match before with
      | .none => .none
      | .some reach =>
        if reach.conjunct = .none then .none
        else if Unicode.conjunctLinker.contains char.toNat then .linked
        else if keepsConjunct char kind then reach.conjunct
        else .none
  let pictograph : Pictograph :=
    if char.toNat < 0x80 then .none
    else if Unicode.extendedPictographic.contains char.toNat then .extended
    else
      match before with
      | .some ⟨_, _, .extended, _⟩ =>
        match kind with
        | .extend => .extended
        | .joiner => .joined
        | _ => .none
      | _ => .none
  let oddRegional :=
    kind == .regional &&
      match before with
      | .none => true
      | .some reach => !reach.oddRegional
  ⟨kind, conjunct, pictograph, oddRegional⟩

/-- Whether a cluster ends between the text reached so far and the next character. -/
def Reach.breaksBefore (reach : Reach) (char : Char) : Bool :=
  let next := BreakClass.ofChar char
  match reach.last, next with
  | .carriageReturn, .lineFeed => false
  | .carriageReturn, _ | .lineFeed, _ | .control, _ => true
  | _, .carriageReturn | _, .lineFeed | _, .control => true
  | .leading, .leading | .leading, .vowel | .leading, .openSyllable
  | .leading, .closedSyllable => false
  | .openSyllable, .vowel | .openSyllable, .trailing | .vowel, .vowel | .vowel, .trailing => false
  | .closedSyllable, .trailing | .trailing, .trailing => false
  | _, .extend | _, .joiner | _, .spacingMark => false
  | .prepend, _ => false
  | .regional, .regional => !reach.oddRegional
  | _, _ =>
    !(reach.conjunct = .linked && char.toNat ≥ 0x80 &&
        Unicode.conjunctConsonant.contains char.toNat) &&
      !(reach.pictograph = .joined && char.toNat ≥ 0x80 &&
        Unicode.extendedPictographic.contains char.toNat)

/-- The characters up to the end of the cluster with a given number, counted from the one in which
the text before them stands. -/
def takeClustersFrom : Nat → Reach → List Char → List Char
  | _, _, [] => []
  | more, reach, char :: rest =>
    if reach.breaksBefore char then
      match more with
      | 0 => []
      | more + 1 => char :: takeClustersFrom more (.after (some reach) char) rest
    else char :: takeClustersFrom more (.after (some reach) char) rest

/-- The first clusters of a text, as many as wanted or as it has. -/
def takeClusters : Nat → List Char → List Char
  | 0, _ => []
  | _, [] => []
  | more + 1, char :: rest => char :: takeClustersFrom more (.after none char) rest

end Descent.Text
