import NewsSearch.Json.Repair
import NewsSearch.Proofs.Json.Run

/-!
# Blanked characters

A text with marks says which of its characters are blanked. Blanking keeps the bytes of all other
characters where they are, and so the newlines, as long as none of them is blanked.
-/

namespace NewsSearch.Json

/-! ## The bytes of a text -/

namespace Position

@[simp] theorem bytes_nil : bytes [] = [] := rfl

@[simp] theorem bytes_cons (c : Char) (cs : List Char) :
    bytes (c :: cs) = String.utf8EncodeChar c ++ bytes cs := rfl

@[simp] theorem bytes_append (p r : List Char) : bytes (p ++ r) = bytes p ++ bytes r := by
  simp [bytes]

@[simp] theorem bytes_length (cs : List Char) : (bytes cs).length = Reader.byteCount cs := by
  induction cs with
  | nil => rfl
  | cons c cs ih => simp [ih]

/-- Every byte of a character of more than one byte is above the ASCII range. -/
theorem eq_newline_of_mem {c : Char} (h : newline ∈ String.utf8EncodeChar c) : c = '\n' := by
  have hbyte (x k : Nat) (hk : 128 ≤ k) (hx : x + k < 256) : newline ≠ UInt8.ofNat (x + k) := by
    intro heq
    have := congrArg UInt8.toNat heq
    simp [newline] at this
    omega
  unfold String.utf8EncodeChar at h
  dsimp only at h
  split at h
  · have hc : c.toNat ≤ 127 := ‹_›
    have heq := congrArg UInt8.toNat (List.mem_singleton.mp h)
    simp [newline] at heq
    exact Char.toNat_inj.mp (by simp; omega)
  · exfalso
    split at h
    · simp only [List.mem_cons, List.not_mem_nil, or_false] at h
      rcases h with h | h <;> exact hbyte _ _ (by omega) (by omega) h
    · split at h
      · simp only [List.mem_cons, List.not_mem_nil, or_false] at h
        rcases h with h | h | h <;> exact hbyte _ _ (by omega) (by omega) h
      · simp only [List.mem_cons, List.not_mem_nil, or_false] at h
        rcases h with h | h | h | h <;> exact hbyte _ _ (by omega) (by omega) h

end Position

namespace Repair

@[simp] theorem byteCount_blank (c : Char) : Reader.byteCount (blank c) = c.utf8Size := by
  simp [blank, show ' '.utf8Size = 1 from rfl]

/-- The character that covers a byte of a text is blanked. -/
theorem blankAt_split {offset : Nat} {cs : List Char} (h : offset < Reader.byteCount cs) :
    ∃ l c r, cs = l ++ c :: r ∧ Reader.byteCount l ≤ offset ∧
      offset < Reader.byteCount l + c.utf8Size ∧ blankAt offset cs = l ++ (blank c ++ r) := by
  induction cs generalizing offset with
  | nil => cases h
  | cons c cs ih =>
    rw [Reader.byteCount_cons] at h
    unfold blankAt
    by_cases hc : offset < c.utf8Size
    · exact ⟨[], c, cs, rfl, Nat.zero_le _, by simpa using hc, by simp [hc]⟩
    · obtain ⟨l, d, r, hcs, hle, hlt, hblank⟩ :=
        ih (show offset - c.utf8Size < Reader.byteCount cs by omega)
      refine ⟨c :: l, d, r, by rw [hcs]; rfl, ?_, ?_, by simp [hc, hblank]⟩
      · rw [Reader.byteCount_cons]; omega
      · rw [Reader.byteCount_cons]; omega

/-- A byte of a character is a newline only if the character is. -/
theorem covered_newline_iff {l r : List Char} {c : Char} {i : Nat}
    (hle : Reader.byteCount l ≤ i) (hlt : i < Reader.byteCount l + c.utf8Size) :
    (Position.bytes (l ++ c :: r))[i]? = some Position.newline ↔ c = '\n' := by
  have hbyte : (Position.bytes (l ++ c :: r))[i]? =
      (String.utf8EncodeChar c)[i - Reader.byteCount l]? := by
    rw [Position.bytes_append, Position.bytes_cons, List.getElem?_append_right (by simpa using hle),
      List.getElem?_append_left (by simp; omega), Position.bytes_length]
  rw [hbyte]
  constructor
  · intro h
    exact Position.eq_newline_of_mem (List.mem_of_getElem? h)
  · rintro rfl
    have hi : i - Reader.byteCount l = 0 := by
      have : '\n'.utf8Size = 1 := rfl
      omega
    rw [hi]
    rfl

end Repair

/-! ## Marked texts -/

/-- A text with marks on the characters that are to be blanked. -/
abbrev Marked := List (Char × Bool)

namespace Marked

/-- What stands for a character once the marked ones are blanked. -/
def piece : Char × Bool → List Char
  | (c, true) => Repair.blank c
  | (c, false) => [c]

def text (m : Marked) : List Char := m.map Prod.fst

def blanked (m : Marked) : List Char := m.flatMap piece

def marks (m : Marked) : Nat := m.countP Prod.snd

/-- No mark is on a newline. -/
def KeepsLines (m : Marked) : Prop := ∀ c, (c, true) ∈ m → c ≠ '\n'

def plain (cs : List Char) : Marked := cs.map (·, false)

@[simp] theorem text_nil : text [] = [] := rfl
@[simp] theorem blanked_nil : blanked [] = [] := rfl
@[simp] theorem marks_nil : marks [] = 0 := rfl

@[simp] theorem text_cons (x : Char × Bool) (m : Marked) : text (x :: m) = x.1 :: text m := rfl

@[simp] theorem blanked_cons (x : Char × Bool) (m : Marked) :
    blanked (x :: m) = piece x ++ blanked m := rfl

@[simp] theorem marks_cons (c : Char) (b : Bool) (m : Marked) :
    marks ((c, b) :: m) = marks m + if b then 1 else 0 := by
  cases b <;> simp [marks]

@[simp] theorem text_append (a b : Marked) : text (a ++ b) = text a ++ text b := by simp [text]

@[simp] theorem blanked_append (a b : Marked) : blanked (a ++ b) = blanked a ++ blanked b := by
  simp [blanked]

@[simp] theorem marks_append (a b : Marked) : marks (a ++ b) = marks a + marks b := by
  simp [marks]

@[simp] theorem text_plain (cs : List Char) : text (plain cs) = cs := by
  simp [text, plain, Function.comp_def]

@[simp] theorem blanked_plain (cs : List Char) : blanked (plain cs) = cs := by
  induction cs with
  | nil => rfl
  | cons c cs ih => simpa [plain, piece] using ih

@[simp] theorem marks_plain (cs : List Char) : marks (plain cs) = 0 := by
  simp [marks, plain, List.countP_map, Function.comp_def]

theorem byteCount_piece (x : Char × Bool) : Reader.byteCount (piece x) = x.1.utf8Size := by
  obtain ⟨c, b⟩ := x
  cases b <;> simp [piece]

theorem byteCount_blanked (m : Marked) :
    Reader.byteCount m.blanked = Reader.byteCount m.text := by
  induction m with
  | nil => rfl
  | cons x m ih => simp [byteCount_piece, ih]

theorem KeepsLines.tail {x : Char × Bool} {m : Marked} (h : KeepsLines (x :: m)) : m.KeepsLines :=
  fun c hc => h c (List.mem_cons_of_mem _ hc)

theorem append_eq_append_cons {α : Type} {a b l r : List α} {c : α} (h : a ++ b = l ++ c :: r) :
    (∃ a', a = l ++ c :: a' ∧ r = a' ++ b) ∨ ∃ l', l = a ++ l' ∧ b = l' ++ c :: r := by
  rcases List.append_eq_append_iff.mp h with ⟨l', hl, hb⟩ | ⟨a', ha, hr⟩
  · exact .inr ⟨l', hl, hb⟩
  · cases a' with
    | nil => exact .inr ⟨[], by simpa using ha.symm, by simpa using hr.symm⟩
    | cons x a' =>
      obtain ⟨rfl, rfl⟩ := List.cons.inj hr
      exact .inl ⟨a', ha, rfl⟩

/-- A character of a text whose marked ones are blanked can be blanked as well. -/
theorem mark_one {m : Marked} {l r : List Char} {c : Char} (h : m.blanked = l ++ c :: r)
    (hm : m.KeepsLines) (hc : c ≠ '\n') :
    ∃ m' : Marked, m'.text = m.text ∧ m'.blanked = l ++ (Repair.blank c ++ r) ∧
      m'.marks ≤ m.marks + 1 ∧ m'.KeepsLines := by
  induction m generalizing l with
  | nil => simp at h
  | cons x m ih =>
    obtain ⟨d, marked⟩ := x
    rw [blanked_cons] at h
    rcases append_eq_append_cons h with ⟨p', hp, hr⟩ | ⟨l', hl, hrest⟩
    · cases marked with
      | false =>
        -- It is the first character, which gets a mark.
        have hone : [d] = l ++ c :: p' := hp
        obtain ⟨rfl, rfl, rfl⟩ : l = [] ∧ d = c ∧ p' = [] := by
          cases l with
          | nil => simpa using hone
          | cons x l => simp at hone
        refine ⟨(d, true) :: m, rfl, by simp [piece, hr], by simp, ?_⟩
        intro e he
        rcases List.mem_cons.mp he with he | he
        · rw [(Prod.mk.inj he).1]; exact hc
        · exact hm.tail e he
      | true =>
        -- It is one of the spaces for a character that has its mark already.
        have hspace : c = ' ' := by
          have hmem : c ∈ Repair.blank d := by
            rw [show Repair.blank d = l ++ c :: p' from hp]; simp
          exact (List.mem_replicate.mp hmem).2
        subst hspace
        exact ⟨(d, true) :: m, rfl, h, Nat.le_succ _, hm⟩
    · obtain ⟨m', ht, hb, hle, hk⟩ := ih hrest hm.tail
      refine ⟨(d, marked) :: m', by simp [ht], by simp [hb, hl], ?_, ?_⟩
      · simp only [marks_cons]
        omega
      · intro e he
        rcases List.mem_cons.mp he with he | he
        · exact hm e (he ▸ List.mem_cons_self)
        · exact hk e he

/-! ## Newlines -/

theorem newlines_piece (x : Char × Bool) (hx : x.2 → x.1 ≠ '\n') :
    (Position.bytes (piece x)).map (· == Position.newline) =
      (String.utf8EncodeChar x.1).map (· == Position.newline) := by
  obtain ⟨c, marked⟩ := x
  cases marked with
  | false => simp [piece]
  | true =>
    have hblank : ∀ b ∈ Position.bytes (Repair.blank c), (b == Position.newline) = false := by
      intro b hb
      obtain ⟨d, hd, hb⟩ := List.mem_flatMap.mp hb
      obtain rfl := (List.mem_replicate.mp hd).2
      obtain rfl : b = 32 := List.mem_singleton.mp hb
      rfl
    have hchar : ∀ b ∈ String.utf8EncodeChar c, (b == Position.newline) = false := by
      intro b hb
      simp only [beq_eq_false_iff_ne, ne_eq]
      rintro rfl
      exact hx rfl (Position.eq_newline_of_mem hb)
    rw [piece, List.map_congr_left hblank, List.map_congr_left hchar]
    simp only [List.map_const', Position.bytes_length, Repair.byteCount_blank,
      String.length_utf8EncodeChar]

/-- Blanking leaves every newline where it is and makes no other. -/
theorem newlines_blanked {m : Marked} (hm : m.KeepsLines) :
    (Position.bytes m.blanked).map (· == Position.newline) =
      (Position.bytes m.text).map (· == Position.newline) := by
  induction m with
  | nil => rfl
  | cons x m ih =>
    have hx : x.2 → x.1 ≠ '\n' := by
      obtain ⟨c, b⟩ := x
      rintro rfl
      exact hm c List.mem_cons_self
    simp only [blanked_cons, text_cons, Position.bytes_append, Position.bytes_cons,
      List.map_append, newlines_piece x hx, ih hm.tail]

theorem newline_iff {m : Marked} (hm : m.KeepsLines) (i : Nat) :
    (Position.bytes m.blanked)[i]? = some Position.newline ↔
      (Position.bytes m.text)[i]? = some Position.newline := by
  have h := congrArg (·[i]?) (newlines_blanked hm)
  simp only [List.getElem?_map] at h
  cases hb : (Position.bytes m.blanked)[i]? <;> cases ht : (Position.bytes m.text)[i]? <;>
    simp only [hb, ht, Option.map_some, Option.map_none, Option.some.injEq, reduceCtorEq] at h ⊢
  rw [← beq_iff_eq, h, beq_iff_eq]

end Marked

end NewsSearch.Json
