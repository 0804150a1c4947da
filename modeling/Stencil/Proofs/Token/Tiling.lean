import Mathlib.Data.List.Chain
import Stencil.Proofs.Token.Leftmost
/-!
# Tokens tile the text

The tokens of a text stand in it one right behind the other, from its beginning to its end: nothing
is left out between them, and each knows how many bytes come before it and at which places it
begins and ends. `Tiles` says so by indices of the text. It is kept by each step of the scan without
a memory, together with what a token is made of, so it holds of all tokens that a text has.
-/

namespace Stencil

open Text Reference

theorem Text.standsAt_of_extract {needle text : List Char} {first last index : Nat}
    (stands : StandsAt needle (text.extract first last) index) :
    StandsAt needle text (first + index) := by
  rw [← standsAt_drop]
  rw [List.extract_eq_take_drop, StandsAt, List.drop_take] at stands
  exact stands.trans (List.take_prefix _ _)

theorem Text.byteLength_eq_utf8ByteSize (text : List Char) :
    byteLength text = (String.ofList text).utf8ByteSize := by
  induction text with
  | nil => rfl
  | cons c rest ih =>
      rw [String.ofList_cons, String.utf8ByteSize_append, String.utf8ByteSize_singleton, ← ih,
        byteLength_cons]

namespace Token

/-- That a token is the part of a text between two indices, with its body inside. -/
def Stands (text : List Char) (first : Nat) (tile : Token) (last : Nat) : Prop :=
  ∃ bodyFirst bodyLast, first ≤ bodyFirst ∧ bodyFirst ≤ bodyLast ∧ bodyLast ≤ last ∧
    last ≤ text.length ∧ tile = Reference.token text tile.tag? first bodyFirst bodyLast last

/-- What a token is made of: text in which no tag opens, or a body between the markers of its kind
that goes up to the first closing marker. -/
def WellMade (delimiters : Delimiters) (tile : Token) : Prop :=
  match tile.tag? with
  | none =>
    tile.content ≠ "" ∧ tile.body = tile.content ∧
      ∀ tag, ¬delimiters.opening tag <:+: tile.content.toList
  | some tag =>
    tile.content.toList =
        delimiters.opening tag ++ (tile.body.toList ++ delimiters.closing tag) ∧
      (∀ earlier < tile.body.length,
        ¬StandsAt (delimiters.closing tag) (tile.body.toList ++ delimiters.closing tag) earlier) ∧
      tile.bodyStart = tile.start.advanced (delimiters.opening tag)

/-- That tokens stand in a text between two indices, each right behind the one before it. -/
inductive Tiles (text : List Char) : Nat → List Token → Nat → Prop where
  | nil {index : Nat} : Tiles text index [] index
  | cons {first middle last : Nat} {tile : Token} {tiles : List Token}
      (here : tile.Stands text first middle) (behind : Tiles text middle tiles last) :
      Tiles text first (tile :: tiles) last

variable {text : List Char} {first middle last : Nat} {tile : Token} {tiles more : List Token}

namespace Stands

theorem ordered (here : tile.Stands text first last) : first ≤ last ∧ last ≤ text.length := by
  rcases here with ⟨bodyFirst, bodyLast, _, _, _, inside, _⟩
  omega

theorem content (here : tile.Stands text first last) :
    tile.content = String.ofList (text.extract first last) := by
  rcases here with ⟨_, _, _, _, _, _, same⟩
  exact congrArg Token.content same

theorem offset (here : tile.Stands text first last) :
    tile.offset = Text.byteLength (text.take first) := by
  rcases here with ⟨_, _, _, _, _, _, same⟩
  exact congrArg Token.offset same

theorem start (here : tile.Stands text first last) : tile.start = place text first := by
  rcases here with ⟨_, _, _, _, _, _, same⟩
  exact congrArg Token.start same

theorem stop (here : tile.Stands text first last) : tile.stop = place text last := by
  rcases here with ⟨_, _, _, _, _, _, same⟩
  exact congrArg Token.stop same

end Stands

namespace Tiles

theorem append (early : Tiles text first tiles middle) (late : Tiles text middle more last) :
    Tiles text first (tiles ++ more) last := by
  induction early with
  | nil => exact late
  | cons here _ ih => exact .cons here (ih late)

theorem single (here : tile.Stands text first last) : Tiles text first [tile] last :=
  .cons here .nil

/-- Tiles that are cut into two lists tile up to where the second begins, and on from there. -/
theorem exists_middle (tiling : Tiles text first (tiles ++ more) last) :
    ∃ middle, Tiles text first tiles middle ∧ Tiles text middle more last := by
  induction tiles generalizing first with
  | nil => exact ⟨first, .nil, tiling⟩
  | cons tile rest ih =>
      cases tiling with
      | cons here behind =>
          rcases ih behind with ⟨middle, early, late⟩
          exact ⟨middle, .cons here early, late⟩

theorem ordered (tiling : Tiles text first tiles last) : first ≤ last := by
  induction tiling with
  | nil => exact Nat.le_refl _
  | cons here _ ih => exact Nat.le_trans here.ordered.1 ih

theorem inside (tiling : Tiles text first tiles last) (begins : first ≤ text.length) :
    last ≤ text.length := by
  induction tiling with
  | nil => exact begins
  | cons here _ ih => exact ih here.ordered.2

/-- The contents of tiles, one after the other, are the text between their ends. -/
theorem contents (tiling : Tiles text first tiles last) :
    (String.join (tiles.map Token.content)).toList = text.extract first last := by
  induction tiling with
  | nil => simp
  | cons here behind ih =>
      rw [List.map_cons, String.join_cons, String.toList_append, ih, here.content,
        String.toList_ofList, extract_append_extract text here.ordered.1 behind.ordered]

theorem contents_of_start (tiling : Tiles text 0 tiles last) :
    (String.join (tiles.map Token.content)).toList = text.take last := by
  rw [tiling.contents, List.extract_eq_take_drop, List.drop_zero, Nat.sub_zero]

theorem contiguous (tiling : Tiles text first tiles last) :
    tiles.IsChain fun one two => one.stop = two.start := by
  induction tiling with
  | nil => exact .nil
  | cons here behind ih =>
      cases behind with
      | nil => exact .singleton _
      | cons next _ => exact .cons_cons (here.stop.trans next.start.symm) ih

end Tiles

end Token

namespace Reference

open Token

variable {delimiters : Delimiters} {text : List Char} {start opens closes : Nat} {tag : Tag}
  {tokens : List Token}

theorem stands_tagToken (closable : delimiters.closing tag ≠ [])
    (closed : ClosesAt delimiters text tag opens closes) :
    (tagToken delimiters text tag opens closes).Stands text opens
      (endOf delimiters tag closes) := by
  have bodyAhead : opens + (delimiters.opening tag).length ≤ closes := closed.after
  have inside := closed.stands.le_length closable
  refine ⟨bodyOf delimiters tag opens, closes, ?_, closed.after, ?_, inside, rfl⟩
  · exact Nat.le_add_right _ _
  · exact Nat.le_add_right _ _

theorem tiles_textBetween {first last : Nat} (ordered : first ≤ last)
    (inside : last ≤ text.length) : Tiles text first (textBetween text first last) last := by
  unfold textBetween
  split
  · exact .single ⟨first, last, Nat.le_refl _, ordered, Nat.le_refl _, inside, rfl⟩
  · have same : first = last := by omega
    rw [same]
    exact .nil

/-- Text in which no tag opens before an index is well made up to there. -/
theorem wellMade_textBetween {first last : Nat} (inside : last ≤ text.length)
    (plain : ∀ tag earlier, first ≤ earlier → earlier < last →
      ¬StandsAt (delimiters.opening tag) text earlier)
    (marked : ∀ tag, delimiters.opening tag ≠ []) :
    ∀ token ∈ textBetween text first last, token.WellMade delimiters := by
  intro token member
  unfold textBetween at member
  split at member
  · rename_i some
    rw [List.mem_singleton] at member
    subst member
    have length : (text.extract first last).length = last - first := length_extract inside
    refine ⟨?_, rfl, ?_⟩
    · intro empty
      have none := congrArg String.length empty
      simp [token, length] at none
      omega
    · rintro tag ⟨before, after, whole⟩
      simp only [token, String.toList_ofList] at whole
      have here : StandsAt (delimiters.opening tag) (text.extract first last) before.length := by
        rw [← whole, List.append_assoc, StandsAt, List.drop_left]
        exact List.prefix_append _ _
      have sizes := congrArg List.length whole
      have some := List.length_pos_iff.mpr (marked tag)
      rw [length, List.length_append, List.length_append] at sizes
      exact plain tag (first + before.length) (by omega) (by omega) (standsAt_of_extract here)
  · cases member

theorem wellMade_tagToken (next : NextTag delimiters text start tag opens)
    (closable : delimiters.closing tag ≠ [])
    (closed : ClosesAt delimiters text tag opens closes) :
    (tagToken delimiters text tag opens closes).WellMade delimiters := by
  have bodyAhead : bodyOf delimiters tag opens ≤ closes := closed.after
  have inside := closed.stands.le_length closable
  have opening : text.extract opens (bodyOf delimiters tag opens) = delimiters.opening tag :=
    next.first.stands.extract_eq
  have closing : text.extract closes (endOf delimiters tag closes) = delimiters.closing tag :=
    closed.stands.extract_eq
  have behind : text.extract (bodyOf delimiters tag opens) closes ++ delimiters.closing tag =
      text.extract (bodyOf delimiters tag opens) (endOf delimiters tag closes) := by
    rw [← closing]
    exact extract_append_extract text bodyAhead (Nat.le_add_right _ _)
  have whole : delimiters.opening tag ++
      text.extract (bodyOf delimiters tag opens) (endOf delimiters tag closes) =
        text.extract opens (endOf delimiters tag closes) := by
    rw [← opening]
    refine extract_append_extract text (Nat.le_add_right _ _) ?_
    exact Nat.le_trans bodyAhead (Nat.le_add_right _ _)
  refine ⟨?_, ?_, ?_⟩
  · simp only [tagToken, token, String.toList_ofList, behind, whole]
  · intro earlier before here
    simp only [tagToken, token, String.toList_ofList, behind] at here
    have sooner : earlier < closes - bodyOf delimiters tag opens := by
      simp only [tagToken, token, String.length_ofList] at before
      rwa [length_extract (by omega)] at before
    exact closed.first (bodyOf delimiters tag opens + earlier) (Nat.le_add_right _ _) (by omega)
      (standsAt_of_extract here)
  · simp only [tagToken, token]
    rw [← opening, place_advanced text (show opens ≤ bodyOf delimiters tag opens from
      Nat.le_add_right _ _)]

/-- What is known of the tokens in front of a boundary: they tile the text up to there, each is well
made, and of any two neighbours one is a tag, as is the last of them. -/
structure Tiled (delimiters : Delimiters) (text : List Char) (tokens : List Token) (last : Nat) :
    Prop where
  tiles : Tiles text 0 tokens last
  wellMade : ∀ token ∈ tokens, token.WellMade delimiters
  apart : tokens.IsChain fun one two => ¬(one.tag? = none ∧ two.tag? = none)

theorem apart_textBetween (first last : Nat) :
    (textBetween text first last).IsChain fun one two => ¬(one.tag? = none ∧ two.tag? = none) := by
  unfold textBetween
  split
  · exact .singleton _
  · exact .nil

/-- Text goes on behind tags without another text in front of it. -/
theorem Tiled.append_text {first last : Nat} (tiled : Tiled delimiters text tokens first)
    (ended : ∀ token ∈ tokens.getLast?, token.tag? ≠ none) (ordered : first ≤ last)
    (inside : last ≤ text.length)
    (plain : ∀ tag earlier, first ≤ earlier → earlier < last →
      ¬StandsAt (delimiters.opening tag) text earlier)
    (marked : ∀ tag, delimiters.opening tag ≠ []) :
    Tiled delimiters text (tokens ++ textBetween text first last) last where
  tiles := tiled.tiles.append (tiles_textBetween ordered inside)
  wellMade := List.forall_mem_append.mpr
    ⟨tiled.wellMade, wellMade_textBetween inside plain marked⟩
  apart := by
    -- The only new neighbours are the last token and the text behind it.
    refine List.isChain_append.mpr ⟨tiled.apart, apart_textBetween first last, ?_⟩
    intro one member _ _ both
    exact ended one member both.1

theorem Tiled.append_tag (tiled : Tiled delimiters text tokens opens)
    (next : NextTag delimiters text start tag opens)
    (closable : delimiters.closing tag ≠ [])
    (closed : ClosesAt delimiters text tag opens closes) :
    Tiled delimiters text (tokens ++ [tagToken delimiters text tag opens closes])
      (endOf delimiters tag closes) where
  tiles := tiled.tiles.append (.single (stands_tagToken closable closed))
  wellMade := List.forall_mem_append.mpr
    ⟨tiled.wellMade, List.forall_mem_singleton.mpr (wellMade_tagToken next closable closed)⟩
  apart := by
    refine List.isChain_append.mpr ⟨tiled.apart, .singleton _, ?_⟩
    rintro _ _ two member ⟨_, plain⟩
    cases member
    cases plain

/-- The invariant of the boundaries that the scan reaches. Behind a tag comes no text before the
next boundary, so no two texts meet. -/
theorem Reaches.tiled (marked : ∀ tag, delimiters.opening tag ≠ [])
    (closable : ∀ tag, delimiters.closing tag ≠ [])
    (reached : Reaches delimiters text start tokens) :
    Tiled delimiters text tokens start ∧ ∀ token ∈ tokens.getLast?, token.tag? ≠ none := by
  induction reached with
  | start => exact ⟨⟨.nil, by simp, .nil⟩, by simp⟩
  | tag _ next closed ih =>
      rcases ih with ⟨tiled, ended⟩
      have inside := next.first.stands.le_length (marked _)
      have texts := tiled.append_text ended next.first.after (by omega) next.leftmost marked
      rw [← List.append_assoc]
      refine ⟨texts.append_tag next (closable _) closed, ?_⟩
      intro last member
      rw [List.getLast?_concat, Option.mem_some_iff] at member
      subst member
      exact Option.some_ne_none _

theorem Ends.tiled (marked : ∀ tag, delimiters.opening tag ≠ [])
    (closable : ∀ tag, delimiters.closing tag ≠ []) (ends : Ends delimiters text (.ok tokens)) :
    Tiled delimiters text tokens text.length := by
  cases ends with
  | tokens reached last =>
      rcases reached.tiled marked closable with ⟨tiled, ended⟩
      have inside := tiled.tiles.inside (Nat.zero_le _)
      exact tiled.append_text ended inside (Nat.le_refl _)
        (fun tag earlier after _ => last tag earlier after) marked

end Reference

theorem exists_tokens {delimiters : Delimiters} {text : String}
    (scans : (tokenize delimiters text).isOk = true) :
    ∃ tokens, tokenize delimiters text = .ok tokens := by
  cases scanned : tokenize delimiters text with
  | ok tokens => exact ⟨tokens, rfl⟩
  | error problem =>
      rw [scanned] at scans
      cases scans

/-- The tokens of a text tile it. -/
theorem tiled_of_tokenize {delimiters : Delimiters} {text : String} {tokens : List Token}
    (read : tokenize delimiters text = .ok tokens) :
    Reference.Tiled delimiters text.toList tokens text.toList.length := by
  have marked (tag : Tag) := (marked_of_tokenize read tag).1
  have closable (tag : Tag) := (marked_of_tokenize read tag).2
  have ends := ends_tokenize marked closable text
  rw [read] at ends
  exact ends.tiled marked closable

/-- Tokens lose nothing of a text: one after the other they are the text, and the offset and the
places of each are those of the text in front of it. Each is well made, and ends where the next one
begins; of two neighbours one is a tag. -/
theorem tokenize_lossless {delimiters : Delimiters} {text : String} {tokens : List Token}
    (read : tokenize delimiters text = .ok tokens) :
    String.join (tokens.map Token.content) = text ∧
      (∀ before token after, tokens = before ++ token :: after →
        token.offset = (String.join (before.map Token.content)).utf8ByteSize ∧
          token.start =
            Position.start.advanced (String.join (before.map Token.content)).toList ∧
          token.stop = token.start.advanced token.content.toList ∧
          token.WellMade delimiters) ∧
      tokens.IsChain (fun one two => one.stop = two.start) ∧
      tokens.IsChain fun one two => ¬(one.tag? = none ∧ two.tag? = none) := by
  have tiled := tiled_of_tokenize read
  refine ⟨?_, ?_, tiled.tiles.contiguous, tiled.apart⟩
  · rw [← String.toList_inj, tiled.tiles.contents_of_start, List.take_length]
  · rintro before token after rfl
    rcases tiled.tiles.exists_middle with ⟨first, early, late⟩
    cases late with
    | cons here _ =>
        have source := early.contents_of_start
        refine ⟨?_, ?_, ?_, tiled.wellMade token (by simp)⟩
        · rw [here.offset, ← source, Text.byteLength_eq_utf8ByteSize, String.ofList_toList]
        · rw [here.start, source, Reference.place]
        · rw [here.start, here.stop, here.content, String.toList_ofList,
            Reference.place_advanced _ here.ordered.1]

/-- A text of more bytes than characters, with the ends of lines before and in a tag. -/
def twoLines : String := "é\r\n\x7b\x7b a\n\x7d\x7dz"

/-- The tag in that text. -/
def twoLinesTag : Token :=
  ⟨some .expression, "\x7b\x7b a\n\x7d\x7d", " a\n", 4, ⟨2, 2⟩, ⟨2, 0⟩, ⟨3, 2⟩⟩

def twoLinesTokens : List Token :=
  [⟨none, "é\r\n", "é\r\n", 0, ⟨1, 0⟩, ⟨1, 0⟩, ⟨2, 0⟩⟩, twoLinesTag,
    ⟨none, "z", "z", 11, ⟨3, 2⟩, ⟨3, 2⟩, ⟨3, 3⟩⟩]

theorem tokenize_lossless_twoLines :
    tokenize {} twoLines = .ok twoLinesTokens ∧
      String.join (twoLinesTokens.map Token.content) = twoLines ∧
      twoLinesTag.offset = "é\r\n".utf8ByteSize ∧
      twoLinesTag.start = Position.start.advanced "é\r\n".toList ∧
      twoLinesTag.WellMade {} ∧
      twoLinesTokens.IsChain (fun one two => one.stop = two.start) ∧
      twoLinesTokens.IsChain fun one two => ¬(one.tag? = none ∧ two.tag? = none) := by
  have read : tokenize {} twoLines = .ok twoLinesTokens := rfl
  rcases tokenize_lossless read with ⟨whole, each, contiguous, apart⟩
  rcases each [⟨none, "é\r\n", "é\r\n", 0, ⟨1, 0⟩, ⟨1, 0⟩, ⟨2, 0⟩⟩] twoLinesTag _ rfl with
    ⟨offset, start, _, wellMade⟩
  exact ⟨read, whole, offset, start, wellMade, contiguous, apart⟩

end Stencil
