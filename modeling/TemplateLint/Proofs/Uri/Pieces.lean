import TemplateLint.Proofs.Uri.Files

/-!
# Pieces of encoded byte sequences

A percent-encoded byte sequence as a sequence of pieces, each of them a byte as it is or an
escape; decoding takes the byte of each piece.  A byte that occurs in no escape separates the
pieces before it from those after it.  And what is decoded without an escape was written as it
is.
-/

namespace TemplateLint.Uri

/-- A piece of an encoded byte sequence: a byte as it is, or the escape of a byte, with its
two digits. -/
inductive Piece where
  | plain (byte : UInt8)
  | escape (high low byte : UInt8)

namespace Piece

/-- The bytes in which a piece is written. -/
def written : Piece → List UInt8
  | plain byte => [byte]
  | escape high low _ => [37, high, low]

/-- The byte that a piece stands for. -/
def byte : Piece → UInt8
  | plain byte => byte
  | escape _ _ byte => byte

/-- The byte of a piece that is an escape. -/
def escaped? : Piece → Option UInt8
  | plain _ => none
  | escape _ _ byte => some byte

theorem written_ne_nil (p : Piece) :
  p.written ≠ []
  := by
  cases p with
  | plain byte => apply List.cons_ne_nil
  | escape high low byte => apply List.cons_ne_nil

theorem written_of_not_escaped {p : Piece} (h : p.escaped? = none) :
  p.written = [p.byte]
  := by
  cases p with
  | plain byte => rfl
  | escape high low byte => cases h

theorem escaped?_eq_some {p : Piece} {b : UInt8} (h : p.escaped? = some b) :
  p.byte = b ∧ 37 ∈ p.written
  := by
  cases p with
  | plain byte => cases h
  | escape high low byte => exact ⟨Option.some.inj h, List.mem_cons_self⟩

end Piece

/-- The pieces of a byte sequence. -/
def pieces : List UInt8 → List Piece
  | [] => []
  | [b] => [.plain b]
  | [b, c] => [.plain b, .plain c]
  | b :: c :: d :: rest =>
    match (if b = 37 then hexValue? c else none), hexValue? d with
    | some high, some low => .escape c d (high * 16 + low) :: pieces rest
    | _, _ => .plain b :: pieces (c :: d :: rest)

/-- The bytes that are escaped in a byte sequence. -/
def escapedIn (bytes : List UInt8) : List UInt8 := (pieces bytes).filterMap Piece.escaped?

/-! ### What pieces are written as and stand for -/

theorem decode_eq_map (bytes : List UInt8) :
  decode bytes = (pieces bytes).map Piece.byte
  := by
  fun_induction pieces bytes with
  | _ => simp [decode, Piece.byte, *]

theorem flatMap_written (bytes : List UInt8) :
  (pieces bytes).flatMap Piece.written = bytes
  := by
  fun_induction pieces bytes with
  | case4 b c d rest high low second first ih =>
    obtain ⟨rfl, _⟩ := Option.ite_none_right_eq_some.mp first
    simp [Piece.written, ih]
  | _ => simp [Piece.written, *]

theorem flatMap_written_eq_nil_iff {ps : List Piece} :
  ps.flatMap Piece.written = [] ↔ ps = []
  := by
  cases ps with
  | nil => simp
  | cons p rest => simp [Piece.written_ne_nil]

theorem pieces_eq_nil_iff {bytes : List UInt8} :
  pieces bytes = [] ↔ bytes = []
  := by
  rw [← flatMap_written_eq_nil_iff, flatMap_written]

theorem decode_eq_nil_iff {bytes : List UInt8} :
  decode bytes = [] ↔ bytes = []
  := by
  rw [decode_eq_map, List.map_eq_nil_iff, pieces_eq_nil_iff]

/-- Pieces none of which is an escape are written as what they stand for. -/
theorem flatMap_written_of_not_escaped {ps : List Piece} (h : ∀ p ∈ ps, p.escaped? = none) :
  ps.flatMap Piece.written = ps.map Piece.byte
  := by
  induction ps with
  | nil => rfl
  | cons p rest ih =>
    rw [List.forall_mem_cons] at h
    rw [List.flatMap_cons, List.map_cons, ih h.2, Piece.written_of_not_escaped h.1]
    rfl

/-- What pieces stand for is what they are written as, if none of the bytes is escaped. -/
theorem flatMap_written_of_unescaped {ps : List Piece}
    (h : ∀ b ∈ ps.map Piece.byte, b ∉ ps.filterMap Piece.escaped?) :
  ps.flatMap Piece.written = ps.map Piece.byte
  := by
  apply flatMap_written_of_not_escaped
  intro p present
  apply Option.eq_none_iff_forall_ne_some.mpr
  intro b escaped
  obtain rfl := (Piece.escaped?_eq_some escaped).1
  apply h p.byte (List.mem_map_of_mem present)
  exact List.mem_filterMap.mpr ⟨p, present, escaped⟩

/-- What is decoded was there as it is, or is escaped. -/
theorem mem_or_mem_escapedIn {bytes : List UInt8} {b : UInt8} (h : b ∈ decode bytes) :
  b ∈ bytes ∨ b ∈ escapedIn bytes
  := by
  rw [decode_eq_map] at h
  obtain ⟨p, present, rfl⟩ := List.mem_map.mp h
  cases p with
  | plain byte =>
    left
    rw [← flatMap_written bytes]
    exact List.mem_flatMap.mpr ⟨_, present, List.mem_singleton_self byte⟩
  | escape high low byte => exact .inr (List.mem_filterMap.mpr ⟨_, present, rfl⟩)

theorem notMem_decode {bytes : List UInt8} {b : UInt8} (absent : b ∉ bytes)
    (unescaped : b ∉ escapedIn bytes) :
  b ∉ decode bytes
  := by
  intro present
  rcases mem_or_mem_escapedIn present with plain | escaped
  · apply absent plain
  · apply unescaped escaped

theorem decode_of_unescaped {bytes : List UInt8} (h : ∀ b ∈ decode bytes, b ∉ escapedIn bytes) :
  decode bytes = bytes
  := by
  rw [decode_eq_map] at h ⊢
  rw [← flatMap_written_of_unescaped h, flatMap_written]

/-- Without a percent sign there is nothing to decode. -/
theorem decode_of_no_percent {bytes : List UInt8} (h : 37 ∉ bytes) :
  decode bytes = bytes
  := by
  apply decode_of_unescaped
  intro b _ escaped
  obtain ⟨p, present, escaped⟩ := List.mem_filterMap.mp escaped
  apply h
  rw [← flatMap_written bytes]
  exact List.mem_flatMap.mpr ⟨p, present, (Piece.escaped?_eq_some escaped).2⟩

/-! ### Separators -/

/-- The bytes that occur in no escape. -/
def Separates (b : UInt8) : Prop := b ≠ 37 ∧ hexValue? b = none

theorem pieces_cons {b : UInt8} (separates : Separates b) (rest : List UInt8) :
  pieces (b :: rest) = .plain b :: pieces rest
  := by
  obtain ⟨start, _⟩ := separates
  rcases rest with _ | ⟨c, _ | ⟨d, rest⟩⟩
  · rfl
  · rfl
  · simp [pieces, start]

/-- No escape reaches over a byte that occurs in none. -/
theorem pieces_cons_cons {b : UInt8} (separates : Separates b) (c : UInt8) (rest : List UInt8) :
  pieces (c :: b :: rest) = .plain c :: pieces (b :: rest)
  := by
  obtain ⟨_, digit⟩ := separates
  cases rest with
  | nil => rfl
  | cons d rest => simp [pieces, digit]

theorem pieces_append_cons {b : UInt8} (separates : Separates b) (front rest : List UInt8) :
  pieces (front ++ b :: rest) = pieces front ++ .plain b :: pieces rest
  := by
  rw [← pieces_cons separates]
  fun_induction pieces front with
  | case1 => rfl
  | case2 c => apply pieces_cons_cons separates
  | case3 c d =>
    have last : pieces (c :: d :: b :: rest) = .plain c :: pieces (d :: b :: rest) := by
      simp [pieces, separates.2]
    change pieces (c :: d :: b :: rest) = _
    rw [last, pieces_cons_cons separates]
    rfl
  | case4 c d e more high low second first ih =>
    change pieces (c :: d :: e :: (more ++ b :: rest)) = .escape d e _ :: (_ ++ _)
    rw [← ih]
    simp [pieces, second, first]
  | case5 c d e more plain ih =>
    change pieces (c :: d :: e :: (more ++ b :: rest)) = .plain c :: (_ ++ _)
    rw [← ih, pieces]
    split
    · rename_i high low first second
      cases plain high low first second
    · rfl

theorem decode_append_cons {b : UInt8} (separates : Separates b) (front rest : List UInt8) :
  decode (front ++ b :: rest) = decode front ++ b :: decode rest
  := by
  simp only [decode_eq_map, pieces_append_cons separates, List.map_append, List.map_cons]
  rfl

/-- Parts that each follow a separator are decoded one by one. -/
theorem decode_append_flatMap {b : UInt8} (separates : Separates b) (front : List UInt8)
    (parts : List (List UInt8)) :
  decode (front ++ parts.flatMap fun part => b :: part)
    = decode front ++ parts.flatMap fun part => b :: decode part
  := by
  induction parts generalizing front with
  | nil => simp
  | cons part rest ih =>
    rw [List.flatMap_cons, List.cons_append, decode_append_cons separates, ih]
    rfl

theorem escapedIn_append_cons {b : UInt8} (separates : Separates b) (front rest : List UInt8) :
  escapedIn (front ++ b :: rest) = escapedIn front ++ escapedIn rest
  := by
  simp only [escapedIn, pieces_append_cons separates, List.filterMap_append,
    List.filterMap_cons, Piece.escaped?]

end TemplateLint.Uri
