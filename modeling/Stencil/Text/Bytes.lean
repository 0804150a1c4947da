/-!
# Bytes of a text

An offset into a text counts the bytes in front of it, and a character takes one to four of them. A
text can be cut at an offset that lies between two characters, or at one of its ends, and nowhere
else.
-/

namespace Stencil.Text

/-- How many bytes characters take. -/
def byteLength (text : List Char) : Nat := text.foldl (fun bytes char => bytes + char.utf8Size) 0

/-- What is in front of an offset and what is behind it. -/
def splitBytes? : Nat → List Char → Option (List Char × List Char)
  | 0, text => some ([], text)
  | _ + 1, [] => none
  | bytes + 1, c :: text =>
    if c.utf8Size ≤ bytes + 1 then do
      let (ahead, behind) ← splitBytes? (bytes + 1 - c.utf8Size) text
      some (c :: ahead, behind)
    else none

/-- What is between two offsets. -/
def slice? (first last : Nat) (text : List Char) : Option (List Char) :=
  if first ≤ last then do
    let (_, behind) ← splitBytes? first text
    let (inside, _) ← splitBytes? (last - first) behind
    some inside
  else none

theorem foldl_utf8Size (text : List Char) (bytes : Nat) :
    text.foldl (fun bytes char => bytes + char.utf8Size) bytes = bytes + byteLength text := by
  induction text generalizing bytes with
  | nil => rfl
  | cons c rest ih =>
      have later := ih (0 + c.utf8Size)
      rw [byteLength, List.foldl_cons, List.foldl_cons, ih, later]
      omega

@[simp]
theorem byteLength_nil : byteLength [] = 0 := rfl

theorem byteLength_append (first second : List Char) :
    byteLength (first ++ second) = byteLength first + byteLength second := by
  rw [byteLength, List.foldl_append, foldl_utf8Size second]
  rfl

@[simp]
theorem byteLength_cons (c : Char) (text : List Char) :
    byteLength (c :: text) = c.utf8Size + byteLength text := by
  rw [byteLength, List.foldl_cons, foldl_utf8Size, Nat.zero_add]

@[simp]
theorem splitBytes?_byteLength (ahead behind : List Char) :
    splitBytes? (byteLength ahead) (ahead ++ behind) = some (ahead, behind) := by
  induction ahead with
  | nil => rw [byteLength_nil, splitBytes?, List.nil_append]
  | cons c rest ih =>
      obtain ⟨bytes, size⟩ := Nat.exists_eq_add_of_lt c.utf8Size_pos
      have positive : byteLength (c :: rest) = bytes + byteLength rest + 1 := by
        rw [byteLength_cons]
        omega
      have left : bytes + byteLength rest + 1 - c.utf8Size = byteLength rest := by omega
      have fits : c.utf8Size ≤ bytes + byteLength rest + 1 := by omega
      rw [positive, List.cons_append, splitBytes?, if_pos fits, left, ih]
      rfl

@[simp]
theorem slice?_byteLength (ahead inside behind : List Char) :
    slice? (byteLength ahead) (byteLength (ahead ++ inside)) (ahead ++ (inside ++ behind)) =
      some inside := by
  have ordered : byteLength ahead ≤ byteLength (ahead ++ inside) := by
    rw [byteLength_append]
    exact Nat.le_add_right _ _
  have between : byteLength (ahead ++ inside) - byteLength ahead = byteLength inside := by
    rw [byteLength_append]
    exact Nat.add_sub_cancel_left ..
  simp [slice?, ordered, between]

end Stencil.Text
