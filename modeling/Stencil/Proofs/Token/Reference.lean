import Stencil.Proofs.Text.Occurrences
/-!
# The scan without a memory

The rule that a scan has to follow, told by indices of the text and without any state. From a
boundary, the next tag is the leftmost opening marker of any kind; where several kinds stand at the
same place, statements come before expressions and expressions before comments. What lies in front
of it is text, and the tag goes on through the first closing marker behind the opening one. Nothing
is remembered from one boundary to the next.
-/

namespace Stencil

open Text

/-- The rank of a kind of tag among markers at the same place; the smallest wins. -/
def Tag.rank : Tag → Nat
  | statement => 0
  | expression => 1
  | comment => 2

theorem Tag.rank_injective {one two : Tag} (same : one.rank = two.rank) : one = two := by
  cases one <;> cases two <;> simp [rank] at same ⊢

namespace Reference

/-- The place of an index of a text. -/
def place (text : List Char) (index : Nat) : Position := Position.start.advanced (text.take index)

theorem place_advanced (text : List Char) {first last : Nat} (ahead : first ≤ last) :
    (place text first).advanced (text.extract first last) = place text last := by
  rw [place, ← Position.advanced_append, take_append_extract text ahead, place]

/-- A piece of a text as a token, with the indices at which it and its body begin and end. -/
def token (text : List Char) (tag? : Option Tag) (first bodyFirst bodyLast last : Nat) : Token where
  tag? := tag?
  content := String.ofList (text.extract first last)
  body := String.ofList (text.extract bodyFirst bodyLast)
  offset := Text.byteLength (text.take first)
  bodyStart := place text bodyFirst
  start := place text first
  stop := place text last

/-- The text between two indices as a token, if there is any. -/
def textBetween (text : List Char) (first last : Nat) : List Token :=
  if first < last then [token text none first first last last] else []

variable (delimiters : Delimiters) (text : List Char)

/-- The next tag from an index on: no marker of any kind opens a tag earlier, and none of the kinds
that open a tag at the same place goes before this one. -/
structure NextTag (start : Nat) (tag : Tag) (opens : Nat) : Prop where
  first : StandsFirst (delimiters.opening tag) text start opens
  leftmost : ∀ other earlier, start ≤ earlier → earlier < opens →
    ¬StandsAt (delimiters.opening other) text earlier
  wins : ∀ other, StandsAt (delimiters.opening other) text opens → tag.rank ≤ other.rank

/-- That no further tag begins in a text. -/
def NoTag (start : Nat) : Prop := ∀ tag, StandsNowhere (delimiters.opening tag) text start

/-- Where the body of a tag begins that opens at an index. -/
def bodyOf (tag : Tag) (opens : Nat) : Nat := opens + (delimiters.opening tag).length

/-- The first closing marker of a tag behind the opening one. -/
def ClosesAt (tag : Tag) (opens closes : Nat) : Prop :=
  StandsFirst (delimiters.closing tag) text (bodyOf delimiters tag opens) closes

/-- That nothing closes a tag. -/
def Unclosed (tag : Tag) (opens : Nat) : Prop :=
  StandsNowhere (delimiters.closing tag) text (bodyOf delimiters tag opens)

/-- Where a tag ends whose closing marker stands at an index. -/
def endOf (tag : Tag) (closes : Nat) : Nat := closes + (delimiters.closing tag).length

/-- A whole tag with its markers. -/
def tagToken (tag : Tag) (opens closes : Nat) : Token :=
  token text (some tag) opens (bodyOf delimiters tag opens) closes (endOf delimiters tag closes)

/-- The boundaries that the scan reaches, each with the tokens in front of it. -/
inductive Reaches : Nat → List Token → Prop where
  | start : Reaches 0 []
  | tag {start opens closes : Nat} {tokens : List Token} {tag : Tag}
      (reached : Reaches start tokens)
      (next : NextTag delimiters text start tag opens)
      (closed : ClosesAt delimiters text tag opens closes) :
      Reaches (endOf delimiters tag closes)
        (tokens ++ (textBetween text start opens ++ [tagToken delimiters text tag opens closes]))

/-- How the scan of a whole text ends: at a boundary behind which no tag begins, with the rest as
text, or at a tag that nothing closes. -/
inductive Ends : Except ScanError (List Token) → Prop where
  | tokens {start : Nat} {tokens : List Token} (reached : Reaches delimiters text start tokens)
      (last : NoTag delimiters text start) :
      Ends (.ok (tokens ++ textBetween text start text.length))
  | unclosed {start opens : Nat} {tokens : List Token} {tag : Tag}
      (reached : Reaches delimiters text start tokens)
      (next : NextTag delimiters text start tag opens)
      (open_ : Unclosed delimiters text tag opens) :
      Ends (.error (.unclosed tag (place text opens)))

end Reference

end Stencil
