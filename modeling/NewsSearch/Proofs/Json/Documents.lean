import NewsSearch.Proofs.Json.Blanking
import NewsSearch.Proofs.Json.Faults
import NewsSearch.Proofs.Json.Position

/-!
# The documents that a repair reads

Every document after the first comes from the one before by one repair: the character that covers
the byte of the fault is blanked. So they all have the lines of the text, and the answer is the
verdict on the last one.
-/

namespace NewsSearch.Json.Repair

open Reader (byteCount)

/-! ## One repair -/

/-- The first fault of a document and the character that covers it. The line and the column of the
fault count from one, and the byte they lead to is in the document. -/
structure Site (document : List Char) where
  fault : Fault
  position : Position
  start : Nat
  offset : Nat
  before : List Char
  char : Char
  after : List Char
  read_eq : Reader.read document = .error fault
  malformed : fault.cause.category = .malformed
  position_eq : position = .ofMark (Position.bytes document) fault.mark
  line_pos : 1 ≤ position.line
  column_pos : 1 ≤ position.column
  start_eq : Position.lineStart? (position.line - 1) (Position.bytes document) = some start
  offset_eq : offset + 1 = start + position.column
  mark_eq : fault.mark = offset + 1
  offset_lt : offset < byteCount document
  split : document = before ++ char :: after
  not_newline : char ≠ '\n'
  before_le : byteCount before ≤ offset
  lt_after : offset < byteCount before + char.utf8Size

/-- `next` is `document` with the character at its first fault blanked. -/
def Repairs (document next : List Char) : Prop :=
  ∃ site : Site document, next = site.before ++ (blank site.char ++ site.after)

theorem repairs_of_attempt {document next : List Char} {e : SyntaxError}
    (h : attempt document = .broken e (some next)) : Repairs document next := by
  unfold attempt at h
  split at h
  · cases h
  · rename_i fault hread
    dsimp only at h
    split at h
    · rename_i hcause
      obtain ⟨-, hnext⟩ := Attempt.broken.inj h
      obtain ⟨offset, hoff, rfl⟩ := Option.map_eq_some_iff.mp hnext
      have hfits := Position.fits_ofMark (Position.bytes document) fault.mark
      obtain ⟨hline, hcol, start, hstart, hsum, hlt⟩ := hfits.offset?_eq_some_iff.mp hoff
      obtain ⟨hi, hnl, hmark⟩ := Position.offset?_ofMark_eq_some hoff
      rw [Position.bytes_length] at hlt
      obtain ⟨before, c, after, hdoc, hle, hcover, hblank⟩ := blankAt_split hlt
      have hnewline : c ≠ '\n' := by
        intro hc
        have hcov := (covered_newline_iff (r := after) hle hcover).mpr hc
        rw [← hdoc, List.getElem?_eq_getElem hi] at hcov
        exact hnl (Option.some.inj hcov)
      exact ⟨{
        fault
        position := _
        start
        offset
        before
        char := c
        after
        read_eq := hread
        malformed := hcause
        position_eq := rfl
        line_pos := hline
        column_pos := hcol
        start_eq := hstart
        offset_eq := hsum
        mark_eq := hmark (by simpa using Reader.read_mark hread)
        offset_lt := hlt
        split := hdoc
        not_newline := hnewline
        before_le := hle
        lt_after := hcover }, hblank⟩
    · cases h

/-! ## The list of documents -/

theorem documents_broken {left : Nat} {document next : List Char} {e : SyntaxError}
    (h : attempt document = .broken e (some next)) :
    documents (left + 1) document = document :: documents left next := by
  rw [documents.eq_def]
  dsimp only
  rw [h]

theorem documents_eq_singleton {left : Nat} {document : List Char}
    (h : left = 0 ∨ ∀ e next, attempt document ≠ .broken e (some next)) :
    documents left document = [document] := by
  unfold documents
  split
  · rename_i hb
    rcases h with h | h
    · cases h
    · exact absurd hb (h _ _)
  · rfl

/-- Documents are read as long as there is a repair to be made. -/
theorem documents_induction {motive : Nat → List Char → Prop}
    (stop : ∀ left document, (left = 0 ∨ ∀ e next, attempt document ≠ .broken e (some next)) →
      motive left document)
    (repair : ∀ left document e next, attempt document = .broken e (some next) →
      motive left next → motive (left + 1) document)
    (left : Nat) (document : List Char) : motive left document := by
  induction left generalizing document with
  | zero => exact stop 0 document (.inl rfl)
  | succ left ih =>
    by_cases h : ∃ e next, attempt document = .broken e (some next)
    · obtain ⟨e, next, hb⟩ := h
      exact repair left document e next hb (ih next)
    · exact stop _ document (.inr fun e next hb => h ⟨e, next, hb⟩)

theorem documents_length (left : Nat) (document : List Char) :
    1 ≤ (documents left document).length ∧ (documents left document).length ≤ left + 1 := by
  induction left, document using documents_induction with
  | stop left document h => simp [documents_eq_singleton h]
  | repair left document e next h ih =>
    rw [documents_broken h, List.length_cons]
    omega

theorem documents_head (left : Nat) (document : List Char) :
    (documents left document)[0]? = some document := by
  unfold documents
  split <;> rfl

/-- Each document comes from the one before by one repair. -/
theorem documents_repairs {left d : Nat} {document a b : List Char}
    (ha : (documents left document)[d]? = some a)
    (hb : (documents left document)[d + 1]? = some b) : Repairs a b := by
  induction left, document using documents_induction generalizing d with
  | stop left document h => simp [documents_eq_singleton h] at hb
  | repair left document e next h ih =>
    rw [documents_broken h] at ha hb
    cases d with
    | zero =>
      obtain rfl : document = a := by simpa using ha
      obtain rfl : next = b := by simpa [documents_head] using hb
      exact repairs_of_attempt h
    | succ d => exact ih (by simpa using ha) (by simpa using hb)

/-- What holds of the text, and is kept by a repair, holds of every document. -/
theorem documents_invariant {left d : Nat} {text document : List Char}
    {motive : Nat → List Char → Prop} (h : (documents left text)[d]? = some document)
    (first : motive 0 text)
    (repair : ∀ d a b, motive d a → Repairs a b → motive (d + 1) b) : motive d document := by
  induction d generalizing document with
  | zero =>
    rw [documents_head] at h
    cases h
    exact first
  | succ d ih =>
    obtain ⟨hd, -⟩ := List.getElem?_eq_some_iff.mp h
    have hprev := List.getElem?_eq_getElem (show d < (documents left text).length by omega)
    exact repair d _ _ (ih hprev) (documents_repairs hprev h)

/-- After `d` repairs at most `d` characters of the text are blanked, none of them a newline. -/
theorem documents_marked {left d : Nat} {text document : List Char}
    (h : (documents left text)[d]? = some document) :
    ∃ m : Marked, m.text = text ∧ m.blanked = document ∧ m.marks ≤ d ∧ m.KeepsLines := by
  apply documents_invariant (motive := fun d document =>
    ∃ m : Marked, m.text = text ∧ m.blanked = document ∧ m.marks ≤ d ∧ m.KeepsLines) h
  · refine ⟨.plain text, by simp, by simp, by simp, ?_⟩
    intro c hc
    simp [Marked.plain] at hc
  · rintro d a b ⟨m, ht, hb, hle, hk⟩ ⟨site, hnext⟩
    obtain ⟨m', ht', hb', hle', hk'⟩ := Marked.mark_one (hb.trans site.split) hk site.not_newline
    exact ⟨m', ht'.trans ht, hb'.trans hnext.symm, by omega, hk'⟩

/-! ## The answer -/

/-- What the last document comes to, after `depth` repairs. -/
def verdict (budget depth : Nat) (document : List Char) : Except RepairError Members :=
  match attempt document with
  | .readable v => .ok (entries v)
  | .hopeless e =>
    if 0 < depth ∧ document.all Text.isBlank then .error (.exhausted budget e)
    else .error (.unrecoverable e)
  | .broken e _ =>
    if depth = budget then .error (.exhausted budget e) else .error (.unrecoverable e)

theorem mend_eq_verdict {budget left : Nat} (document : List Char) (h : left ≤ budget) :
    ∃ last, (documents left document).getLast? = some last ∧
      mend budget left document =
        verdict budget (budget - left + ((documents left document).length - 1)) last := by
  induction left, document using documents_induction with
  | stop left document hstop =>
    refine ⟨document, by simp [documents_eq_singleton hstop], ?_⟩
    rw [documents_eq_singleton hstop, mend.eq_def, verdict]
    dsimp only
    cases hb : attempt document with
    | readable v => rfl
    | hopeless e =>
      have hlt : left < budget ↔ 0 < budget - left := by omega
      simp only [hlt, List.length_singleton, Nat.sub_self, Nat.add_zero]
    | broken e next =>
      cases left with
      | zero => simp
      | succ left =>
        cases next with
        | some next => exact absurd hb (hstop.resolve_left (by simp) e next)
        | none =>
          have hne : budget - (left + 1) ≠ budget := by omega
          simp [hne]
  | repair left document e next hb ih =>
    obtain ⟨last, hlast, hmend⟩ := ih (by omega)
    have hlen := (documents_length left next).1
    refine ⟨last, by rw [documents_broken hb, List.getLast?_cons, hlast]; rfl, ?_⟩
    rw [mend.eq_def]
    simp only [hb, hmend, documents_broken hb, List.length_cons]
    congr 1
    omega

theorem parse_eq_verdict (budget : Nat) {text : String} (h : Text.allBlank text = false) :
    ∃ last, (documents budget text.toList).getLast? = some last ∧
      parse budget text = verdict budget ((documents budget text.toList).length - 1) last := by
  obtain ⟨last, hlast, hmend⟩ := mend_eq_verdict text.toList (Nat.le_refl budget)
  refine ⟨last, hlast, ?_⟩
  simpa [parse, h] using hmend

theorem verdict_eq_ok {budget depth : Nat} {document : List Char} {members : Members}
    (h : verdict budget depth document = .ok members) :
    ∃ v, Reader.read document = .ok v ∧ members = entries v := by
  unfold verdict at h
  split at h
  · rename_i v hv
    cases h
    unfold attempt at hv
    split at hv
    · cases hv
      exact ⟨v, ‹_›, rfl⟩
    · dsimp only at hv
      split at hv <;> cases hv
  · split at h <;> cases h
  · split at h <;> cases h

/-- The top-level members that a value has. -/
inductive HasEntries : Value → Members → Prop
  | object (members : Members) : HasEntries (.object members) members
  | other {v : Value} (h : ∀ members, v ≠ .object members) : HasEntries v []

theorem hasEntries_entries (v : Value) : HasEntries v (entries v) := by
  cases v with
  | object members => exact .object members
  | _ => exact .other fun _ h => by cases h

/-- Every document that is read has the bytes and the lines of the text. It comes from the text by
blanking at most as many whole characters as there were repairs, each repair blanks a character that
covers the fault, and the answer is the members of what the last document holds, none if it holds no
object. -/
theorem documents_sound (budget : Nat) (text : String) :
    (documents budget text.toList).length ≤ budget + 1 ∧
    (∀ d document, (documents budget text.toList)[d]? = some document →
      d ≤ budget ∧
      (∃ m : Marked, m.text = text.toList ∧ m.blanked = document ∧ m.marks ≤ d) ∧
      (Position.bytes document).length = (Position.bytes text.toList).length ∧
      (Position.bytes document).toByteArray.IsValidUTF8 ∧
      ∀ i : Nat, (Position.bytes document)[i]? = some Position.newline ↔
        (Position.bytes text.toList)[i]? = some Position.newline) ∧
    (∀ d document next, (documents budget text.toList)[d]? = some document →
      (documents budget text.toList)[d + 1]? = some next → Repairs document next) ∧
    (Text.allBlank text = false →
      (∃ last, (documents budget text.toList).getLast? = some last ∧
        parse budget text = verdict budget ((documents budget text.toList).length - 1) last) ∧
      ∀ members, parse budget text = .ok members →
        ∃ last v, (documents budget text.toList).getLast? = some last ∧
          Reader.read last = .ok v ∧ HasEntries v members) := by
  have hlen := (documents_length budget text.toList).2
  refine ⟨hlen, ?_, fun d document next => documents_repairs, ?_⟩
  · intro d document hd
    obtain ⟨m, ht, hb, hle, hk⟩ := documents_marked hd
    have hlt := (List.getElem?_eq_some_iff.mp hd).1
    refine ⟨by omega, ⟨m, ht, hb, hle⟩, ?_, ⟨document, rfl⟩, ?_⟩
    · simp only [Position.bytes_length, ← ht, ← hb, Marked.byteCount_blanked]
    · rw [← ht, ← hb]
      exact Marked.newline_iff hk
  · intro hblank
    obtain ⟨last, hlast, hparse⟩ := parse_eq_verdict budget hblank
    refine ⟨⟨last, hlast, hparse⟩, ?_⟩
    intro members hok
    obtain ⟨v, hread, rfl⟩ := verdict_eq_ok (hparse.symm.trans hok)
    exact ⟨last, v, hlast, hread, hasEntries_entries v⟩

/-- An object and a list, each with a stray character, which takes one repair. -/
theorem documents_sound_repaired :
    (Text.allBlank "\x7b\"a\": \x01true\x7d" = false ∧
      parse 1 "\x7b\"a\": \x01true\x7d" = .ok [("a", .bool true)] ∧
      ∃ last v, (documents 1 "\x7b\"a\": \x01true\x7d".toList).getLast? = some last ∧
        Reader.read last = .ok v ∧ HasEntries v [("a", .bool true)]) ∧
    (Text.allBlank "[\x01]" = false ∧ parse 1 "[\x01]" = .ok [] ∧
      ∃ last v, (documents 1 "[\x01]".toList).getLast? = some last ∧
        Reader.read last = .ok v ∧ HasEntries v []) := by
  have hobject : parse 1 "\x7b\"a\": \x01true\x7d" = .ok [("a", .bool true)] := rfl
  have hlist : parse 1 "[\x01]" = .ok [] := rfl
  exact ⟨⟨rfl, hobject, ((documents_sound 1 _).2.2.2 rfl).2 _ hobject⟩,
    ⟨rfl, hlist, ((documents_sound 1 _).2.2.2 rfl).2 _ hlist⟩⟩

end NewsSearch.Json.Repair
