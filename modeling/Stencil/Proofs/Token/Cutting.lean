import Stencil.Proofs.Token.Tiling
/-!
# Cutting a text between two tokens

A boundary between two tokens is a good place to cut a text: the part in front of it has the tokens
that stand there, and the part behind it has the others, which only begin to count their places
anew.

`Lexes` tells the scan token by token, each from what stands at its own beginning, so that it can be
begun and ended at every boundary. No marker that goes across a cut matters: of a text only the
markers inside of it count, and a tag goes on up to its own closing marker.
-/

namespace Stencil

open Text

/-- A place of a text, if another text that ends at `base` is put in front of it. -/
def Position.behind (position base : Position) : Position :=
  if position.line = 1 then ⟨base.line, base.column + position.column⟩
  else ⟨base.line + (position.line - 1), position.column⟩

/-- A token of a text, if `front` is put in front of the text. -/
def Token.behind (front : String) (token : Token) : Token :=
  let base := Position.start.advanced front.toList
  { token with
    offset := front.utf8ByteSize + token.offset
    bodyStart := token.bodyStart.behind base
    start := token.start.behind base
    stop := token.stop.behind base }

theorem Position.behind_advance (base position : Position) (some : 0 < position.line) (c : Char) :
    (position.advance c).behind base = (position.behind base).advance c := by
  unfold advance behind
  by_cases newline : c = '\n'
  · by_cases first : position.line = 1
    · simp [newline, first]
    · have later : position.line ≠ 0 := Nat.ne_of_gt some
      simp only [newline, first, later, if_true, if_false, Nat.add_eq_right, Nat.add_sub_cancel,
        Position.mk.injEq, and_true]
      omega
  · by_cases first : position.line = 1
    · simp [newline, first, Nat.add_assoc]
    · simp [newline, first]

/-- Places behind a text are those that walking on from its end gives. -/
theorem Position.behind_advanced (base position : Position) (some : 0 < position.line)
    (text : List Char) :
    (position.advanced text).behind base = (position.behind base).advanced text := by
  induction text generalizing position with
  | nil => rfl
  | cons c rest ih =>
      have still : 0 < (position.advance c).line := by
        unfold advance
        split
        · exact Nat.succ_pos _
        · exact some
      rw [advanced_cons, advanced_cons, ih _ still, behind_advance base position some]

namespace Reference

variable {text : List Char}

theorem place_behind {cut index : Nat} (ahead : cut ≤ index) :
    (place (text.drop cut) (index - cut)).behind (place text cut) = place text index := by
  have whole : text.take index = text.take cut ++ (text.drop cut).take (index - cut) := by
    rw [← List.take_add, Nat.add_sub_cancel' ahead]
  have start : Position.start.behind (place text cut) = place text cut := rfl
  rw [place, Position.behind_advanced _ _ (by decide), start, place, place, whole,
    Position.advanced_append]

/-- A piece of a text is the same piece of the text behind a cut, but for the places. -/
theorem token_behind (text : List Char) (tag? : Option Tag)
    {cut first bodyFirst bodyLast last : Nat}
    (ahead : cut ≤ first) (opening : first ≤ bodyFirst) (body : bodyFirst ≤ bodyLast)
    (closing : bodyLast ≤ last) :
    (token (text.drop cut) tag? (first - cut) (bodyFirst - cut) (bodyLast - cut)
        (last - cut)).behind (String.ofList (text.take cut)) =
      token text tag? first bodyFirst bodyLast last := by
  have piece {one two : Nat} (start : cut ≤ one) (ordered : one ≤ two) :
      (text.drop cut).extract (one - cut) (two - cut) = text.extract one two := by
    rw [List.extract_eq_take_drop, List.extract_eq_take_drop, List.drop_drop,
      Nat.add_sub_cancel' start]
    congr 1
    omega
  have bytes : (String.ofList (text.take cut)).utf8ByteSize +
      Text.byteLength ((text.drop cut).take (first - cut)) = Text.byteLength (text.take first) := by
    rw [← Text.byteLength_eq_utf8ByteSize, ← Text.byteLength_append, ← List.take_add,
      Nat.add_sub_cancel' ahead]
  have base : Position.start.advanced (String.ofList (text.take cut)).toList = place text cut := by
    rw [String.toList_ofList, place]
  simp only [Token.behind, token, base, bytes, piece ahead (Nat.le_trans opening
    (Nat.le_trans body closing)), piece (Nat.le_trans ahead opening) body,
    place_behind ahead, place_behind (Nat.le_trans ahead opening),
    place_behind (Nat.le_trans ahead (Nat.le_trans opening (Nat.le_trans body closing)))]

/-- A piece of a text is the same piece of the part of the text in front of a cut. -/
theorem token_take {tag? : Option Tag} {cut first bodyFirst bodyLast last : Nat}
    (opening : first ≤ bodyFirst) (body : bodyFirst ≤ bodyLast) (closing : bodyLast ≤ last)
    (inside : last ≤ cut) :
    token (text.take cut) tag? first bodyFirst bodyLast last =
      token text tag? first bodyFirst bodyLast last := by
  have front {index : Nat} (before : index ≤ cut) :
      (text.take cut).take index = text.take index := by
    rw [List.take_take, Nat.min_eq_left before]
  have piece {one two : Nat} (before : two ≤ cut) :
      (text.take cut).extract one two = text.extract one two := by
    rw [List.extract_eq_take_drop, List.extract_eq_take_drop, List.drop_take, List.take_take]
    congr 1
    omega
  have bodyBefore : bodyLast ≤ cut := Nat.le_trans closing inside
  have openingBefore : bodyFirst ≤ cut := Nat.le_trans body bodyBefore
  simp only [token, place, piece inside, piece bodyBefore, front inside, front openingBefore,
    front (Nat.le_trans opening openingBefore)]

/-- What stands in the part of a text in front of a cut is what stands in the text and ends before
the cut. -/
theorem standsAt_take {needle : List Char} {cut index : Nat} :
    StandsAt needle (text.take cut) index ↔
      StandsAt needle text index ∧ needle.length ≤ cut - index := by
  rw [StandsAt, List.drop_take, List.prefix_take_iff]
  rfl

variable {delimiters : Delimiters} {first last index : Nat} {tokens more : List Token} {tag : Tag}

/-- That no marker opens a tag between two indices. -/
def Plain (delimiters : Delimiters) (text : List Char) (first last : Nat) : Prop :=
  ∀ tag earlier, first ≤ earlier → earlier < last →
    ¬StandsAt (delimiters.opening tag) text earlier

/-- That these are the tokens of a text from an index on. Text goes on up to the next tag or to the
end, and a tag is told by the markers that stand where it begins. -/
inductive Lexes (delimiters : Delimiters) (text : List Char) : Nat → List Token → Prop where
  | done : Lexes delimiters text text.length []
  | text {first last : Nat} {tokens : List Token} (some : first < last)
      (plain : Plain delimiters text first last)
      (apart : ∀ next ∈ tokens.head?, next.tag? ≠ none)
      (later : Lexes delimiters text last tokens) :
      Lexes delimiters text first (token text none first first last last :: tokens)
  | tag {first closes : Nat} {tag : Tag} {tokens : List Token}
      (opens : StandsAt (delimiters.opening tag) text first)
      (wins : ∀ other, StandsAt (delimiters.opening other) text first → tag.rank ≤ other.rank)
      (closed : ClosesAt delimiters text tag first closes)
      (later : Lexes delimiters text (endOf delimiters tag closes) tokens) :
      Lexes delimiters text first (tagToken delimiters text tag first closes :: tokens)

theorem le_endOf {opens closes : Nat} (closed : ClosesAt delimiters text tag opens closes) :
    opens ≤ endOf delimiters tag closes := by
  have behind := closed.after
  unfold bodyOf at behind
  unfold endOf
  omega

theorem Lexes.inside (lexes : Lexes delimiters text first tokens) : first ≤ text.length := by
  induction lexes with
  | done => exact Nat.le_refl _
  | text some _ _ _ ih => exact Nat.le_trans (Nat.le_of_lt some) ih
  | tag _ _ closed _ ih => exact Nat.le_trans (le_endOf closed) ih

/-- Text up to a tag or to the end, if there is any, goes in front. -/
theorem Lexes.textBetween (lexes : Lexes delimiters text last tokens) (ahead : first ≤ last)
    (plain : Plain delimiters text first last)
    (apart : ∀ next ∈ tokens.head?, next.tag? ≠ none) :
    Lexes delimiters text first (textBetween text first last ++ tokens) := by
  unfold Reference.textBetween
  split
  · rename_i some
    exact .text some plain apart lexes
  · rename_i none
    have same : first = last := by omega
    rw [same]
    exact lexes

theorem Reaches.lexes (reached : Reaches delimiters text first tokens)
    (later : Lexes delimiters text first more) : Lexes delimiters text 0 (tokens ++ more) := by
  induction reached generalizing more with
  | start => exact later
  | tag _ next closed ih =>
      have here := Lexes.tag next.first.stands next.wins closed later
      have front := here.textBetween next.first.after next.leftmost (by simp [tagToken, token])
      rw [List.append_assoc, List.append_assoc]
      exact ih front

/-- What a scan without a memory gives, token by token. -/
theorem Ends.lexes (marked : ∀ tag, delimiters.opening tag ≠ [])
    (closable : ∀ tag, delimiters.closing tag ≠ []) (ends : Ends delimiters text (.ok tokens)) :
    Lexes delimiters text 0 tokens := by
  cases ends with
  | tokens reached last =>
      have inside := (reached.tiled marked closable).1.tiles.inside (Nat.zero_le _)
      have rest := Lexes.done.textBetween inside
        (fun tag earlier after _ => last tag earlier after) (by simp)
      rw [List.append_nil] at rest
      exact reached.lexes rest

/-- Behind a boundary, a scan without a memory goes on as it is told token by token. Text in front
of `first` has been passed over already, so that a tag is found from the boundary and not from
there. -/
theorem Lexes.ends (marked : ∀ tag, delimiters.opening tag ≠ [])
    (lexes : Lexes delimiters text first more) {start : Nat} (ahead : start ≤ first)
    (plain : Plain delimiters text start first)
    (apart : start < first → ∀ next ∈ more.head?, next.tag? ≠ none)
    (reached : Reaches delimiters text start tokens) :
    Ends delimiters text (.ok (tokens ++ (Reference.textBetween text start first ++ more))) := by
  induction lexes generalizing start tokens with
  | done =>
      have last : NoTag delimiters text start := by
        intro tag later after here
        have inside := here.le_length (marked tag)
        have some := List.length_pos_iff.mpr (marked tag)
        exact plain tag later after (by omega) here
      rw [List.append_nil]
      exact .tokens reached last
  | @text first last others some quiet gap _ ih =>
      -- Texts do not meet, so the boundary is where this text begins.
      have same : start = first := by
        rcases Nat.lt_or_ge start first with before | behind
        · exact absurd rfl (apart before _ rfl)
        · omega
      subst same
      have texts := ih (Nat.le_of_lt some) quiet (fun _ => gap) reached
      rw [Reference.textBetween, if_pos some] at texts
      rw [Reference.textBetween, if_neg (Nat.lt_irrefl start)]
      exact texts
  | tag opens wins closed _ ih =>
      have next : NextTag delimiters text start _ _ :=
        ⟨⟨ahead, opens, plain _⟩, plain, wins⟩
      have further := reached.tag next closed
      have empty (index : Nat) : Reference.textBetween text index index = [] := by
        rw [Reference.textBetween, if_neg (Nat.lt_irrefl index)]
      have ended := ih (Nat.le_refl _) (fun _ _ _ _ => by omega) (by omega) further
      rw [empty, List.nil_append, List.append_assoc, List.append_assoc] at ended
      exact ended

/-- A text has just the tokens that it is told to have token by token. -/
theorem ends_iff_lexes (marked : ∀ tag, delimiters.opening tag ≠ [])
    (closable : ∀ tag, delimiters.closing tag ≠ []) :
    Ends delimiters text (.ok tokens) ↔ Lexes delimiters text 0 tokens := by
  refine ⟨Ends.lexes marked closable, fun lexes => ?_⟩
  have ended := lexes.ends marked (Nat.le_refl 0) (fun _ _ _ _ => by omega) (by omega) .start
  rwa [Reference.textBetween, if_neg (Nat.lt_irrefl 0)] at ended

/-- The part of a text in front of a boundary between two of its tokens has those in front. -/
theorem Lexes.take
    (lexes : Lexes delimiters text first (tokens ++ more)) :
    ∃ cut, first ≤ cut ∧ Lexes delimiters (text.take cut) first tokens ∧
      Lexes delimiters text cut more := by
  induction tokens generalizing first with
  | nil =>
      refine ⟨first, Nat.le_refl _, ?_, lexes⟩
      have length : (text.take first).length = first := List.length_take_of_le lexes.inside
      have empty : Lexes delimiters (text.take first) (text.take first).length [] := .done
      rwa [length] at empty
  | cons here rest ih =>
      cases lexes with
      | @text _ last _ some plain apart later =>
          rcases ih later with ⟨cut, ahead, front, behind⟩
          refine ⟨cut, by omega, ?_, behind⟩
          rw [← token_take (Nat.le_refl _) (Nat.le_of_lt some) (Nat.le_refl _) ahead]
          refine .text some ?_ ?_ front
          · intro tag earlier after before stands
            exact plain tag earlier after before (standsAt_take.mp stands).1
          · intro next member
            refine apart next ?_
            cases rest with
            | nil => cases member
            | cons _ _ => exact member
      | @tag _ closes tag _ opens wins closed later =>
          rcases ih later with ⟨cut, ahead, front, behind⟩
          have body : first ≤ bodyOf delimiters tag first := Nat.le_add_right _ _
          have opening := Nat.le_add_right closes (delimiters.closing tag).length
          have whole : bodyOf delimiters tag first ≤ closes := closed.after
          have ends : closes + (delimiters.closing tag).length ≤ cut := ahead
          have marker : first + (delimiters.opening tag).length ≤ closes := whole
          have same : tagToken delimiters (text.take cut) tag first closes =
              tagToken delimiters text tag first closes := token_take body whole opening ahead
          refine ⟨cut, by omega, ?_, behind⟩
          rw [← same]
          refine .tag (standsAt_take.mpr ⟨opens, by omega⟩) ?_ ⟨whole, ?_, ?_⟩ front
          · intro other stands
            exact wins other (standsAt_take.mp stands).1
          · exact standsAt_take.mpr ⟨closed.stands, by omega⟩
          · intro earlier after before stands
            exact closed.first earlier after before (standsAt_take.mp stands).1

/-- The part of a text behind a cut in front of some of its tokens has these tokens. -/
theorem Lexes.drop {cut : Nat} (lexes : Lexes delimiters text (cut + index) tokens) :
    ∃ later, Lexes delimiters (text.drop cut) index later ∧
      tokens = later.map (Token.behind (String.ofList (text.take cut))) := by
  generalize begins : cut + index = first at lexes
  induction lexes generalizing index with
  | done =>
      have length : (text.drop cut).length = index := by
        rw [List.length_drop]
        omega
      refine ⟨[], ?_, rfl⟩
      rw [← length]
      exact .done
  | @text _ last _ some plain apart _ ih =>
      subst begins
      have there : cut + (last - cut) = last := by omega
      rcases ih there with ⟨later, behind, rfl⟩
      have same := token_behind text none (Nat.le_add_right cut index) (Nat.le_refl _)
        (Nat.le_of_lt some) (Nat.le_refl _)
      rw [Nat.add_sub_cancel_left] at same
      refine ⟨_ :: later, .text (by omega) ?_ ?_ behind, ?_⟩
      · intro tag earlier after before stands
        exact plain tag (cut + earlier) (by omega) (by omega) (standsAt_drop.mp stands)
      · intro next member
        refine apart (next.behind (String.ofList (text.take cut))) ?_
        rw [List.head?_map]
        exact Option.mem_map_of_mem _ member
      · rw [List.map_cons, same]
  | @tag _ closes tag _ opens wins closed _ ih =>
      subst begins
      have opening : cut + index ≤ bodyOf delimiters tag (cut + index) := Nat.le_add_right _ _
      have body : bodyOf delimiters tag (cut + index) ≤ closes := closed.after
      have closing : closes ≤ endOf delimiters tag closes := Nat.le_add_right _ _
      have bodyFirst : bodyOf delimiters tag (cut + index) - cut = bodyOf delimiters tag index := by
        unfold bodyOf
        omega
      have last : endOf delimiters tag closes - cut = endOf delimiters tag (closes - cut) := by
        unfold endOf
        omega
      have there : cut + endOf delimiters tag (closes - cut) = endOf delimiters tag closes := by
        omega
      rcases ih there with ⟨later, behind, rfl⟩
      have same := token_behind text (some tag) (Nat.le_add_right cut index) opening body closing
      rw [Nat.add_sub_cancel_left, bodyFirst, last] at same
      refine ⟨_ :: later, .tag (standsAt_drop.mpr opens) ?_ ⟨by omega, ?_, ?_⟩ behind, ?_⟩
      · intro other stands
        exact wins other (standsAt_drop.mp stands)
      · rw [standsAt_drop, Nat.add_sub_cancel' (by omega)]
        exact closed.stands
      · intro earlier after before stands
        exact closed.first (cut + earlier) (by omega) (by omega) (standsAt_drop.mp stands)
      · rw [List.map_cons]
        exact congrArg (· :: _) same.symm

end Reference

/-- A text can be cut between any two of its tokens. The first tokens are those of the part in front
of the cut, and the others are those of the part behind it, if their places are counted on from the
cut. -/
theorem tokenize_cut {delimiters : Delimiters} {text : String} {tokens : List Token}
    (read : tokenize delimiters text = .ok tokens) (count : Nat) :
    let front := String.join ((tokens.take count).map Token.content)
    ∃ rest, text = front ++ rest ∧
      tokenize delimiters front = .ok (tokens.take count) ∧
      ∃ later, tokenize delimiters rest = .ok later ∧
        tokens.drop count = later.map (Token.behind front) := by
  intro front
  have marked (tag : Tag) := (marked_of_tokenize read tag).1
  have closable (tag : Tag) := (marked_of_tokenize read tag).2
  have both (tag : Tag) := And.intro (marked tag) (closable tag)
  have ends := ends_tokenize marked closable text
  rw [read, Reference.ends_iff_lexes marked closable, ← List.take_append_drop count tokens] at ends
  rcases ends.take with ⟨cut, _, early, late⟩
  have whole := ((tokenize_iff_ends delimiters both (String.ofList (text.toList.take cut))).1
    (.ok (tokens.take count))).mpr
  rw [String.toList_ofList, Reference.ends_iff_lexes marked closable] at whole
  have readFront := whole early
  have contents : front = String.ofList (text.toList.take cut) := (tokenize_lossless readFront).1
  have boundary : Reference.Lexes delimiters text.toList (cut + 0) (tokens.drop count) := late
  rcases boundary.drop with ⟨later, behind, places⟩
  have others := ((tokenize_iff_ends delimiters both (String.ofList (text.toList.drop cut))).1
    (.ok later)).mpr
  rw [String.toList_ofList, Reference.ends_iff_lexes marked closable] at others
  rw [contents]
  refine ⟨_, ?_, readFront, later, others behind, places⟩
  rw [← String.ofList_append, List.take_append_drop, String.ofList_toList]

/-- A text in which a marker of a comment stands inside of the one that closes the tag in front. -/
def touchingTokens : List Token :=
  [⟨none, "é\n", "é\n", 0, ⟨1, 0⟩, ⟨1, 0⟩, ⟨2, 0⟩⟩,
    ⟨some .statement, "<%=b%>", "=b", 3, ⟨2, 2⟩, ⟨2, 0⟩, ⟨2, 6⟩⟩,
    ⟨some .comment, "%c%", "c", 9, ⟨2, 7⟩, ⟨2, 6⟩, ⟨2, 9⟩⟩]

theorem tokenize_cut_touching :
    tokenize alikeDelimiters "é\n<%=b%>%c%" = .ok touchingTokens ∧
      tokenize alikeDelimiters "é\n<%=b%>" = .ok (touchingTokens.take 2) ∧
      ∃ rest later, "é\n<%=b%>%c%" = "é\n<%=b%>" ++ rest ∧
        tokenize alikeDelimiters rest = .ok later ∧
        touchingTokens.drop 2 = later.map (Token.behind "é\n<%=b%>") := by
  have read : tokenize alikeDelimiters "é\n<%=b%>%c%" = .ok touchingTokens := rfl
  rcases tokenize_cut read 2 with ⟨rest, whole, front, later, behind, places⟩
  exact ⟨read, front, rest, later, whole, behind, places⟩

end Stencil
