import NewsSearch.Proofs.Decimal.Finite
import NewsSearch.Proofs.Json.Documents
import NewsSearch.Proofs.Json.Members

/-!
# The values a text can have

A value that was read from a text has a key once in an object, and its numbers are whole numbers of
64 bits or finite doubles: what is out of range is a fault of the text. The number reader keeps its
significand within 64 bits, the machine keeps everything it has put on its stack regular, and so does
every document that a repair reads.
-/

namespace NewsSearch.Json

open Decimal

def Number.InRange : Number → Prop
  | .integer n => n.natAbs < UInt64.size
  | .real x => x.isFinite = true

/-- Numbers are in range and no object has a key twice. -/
inductive Value.Regular : Value → Prop
  | null : Regular .null
  | bool (b : Bool) : Regular (.bool b)
  | number {n : Number} (h : n.InRange) : Regular (.number n)
  | string (s : String) : Regular (.string s)
  | array {items : List Value} (h : ∀ v ∈ items, v.Regular) : Regular (.array items)
  | object {members : Members} (keys : (members.map Prod.fst).Nodup)
      (h : ∀ m ∈ members, m.2.Regular) : Regular (.object members)

theorem Number.InRange.isFinite_toFloat {n : Number} (h : n.InRange) :
    n.toFloat.isFinite = true := by
  cases n with
  | real x => exact h
  | integer n =>
    cases n with
    | ofNat n => exact (below_ofNat h).isFinite
    | negSucc n => exact isFinite_neg (below_ofNat h).isFinite

theorem Value.Regular.of_mem {items : List Value} (h : (Value.array items).Regular) {v : Value}
    (hv : v ∈ items) : v.Regular := by
  cases h with
  | array hitems => exact hitems v hv

/-! ## Members -/

/-- The object with these members is regular. -/
abbrev Members.Regular (ms : Members) : Prop := Value.Regular (.object ms)

theorem Members.Regular.put {key : String} {value : Value} {ms : Members} (hms : ms.Regular)
    (hv : value.Regular) : Members.Regular (put key value ms) := by
  cases hms with
  | object keys h =>
    refine .object (nodup_keys_put keys) fun m hm => ?_
    rcases mem_put hm with rfl | hm
    · exact hv
    · exact h m hm

theorem Members.Regular.of_get? {key : String} {v : Value} {ms : Members} (hms : ms.Regular)
    (h : get? key ms = some v) : v.Regular := by
  cases hms with
  | object _ hvalues => exact hvalues _ (mem_of_get? h)

/-! ## Numbers -/

namespace NumberReader

/-- The significand is one of 64 bits. -/
def Fits (n : NumberReader) : Prop := n.significand < significandLimit

instance (n : NumberReader) : Decidable n.Fits := inferInstanceAs (Decidable (_ < _))

theorem lt_of_digit? {c : Char} {d : Nat} (h : digit? c = some d) : d < significandLimit := by
  unfold digit? at h
  split at h
  case isTrue hc =>
    have hle : c.toNat ≤ 57 := by
      simp only [Char.isDigit, Bool.and_eq_true, decide_eq_true_eq] at hc
      exact hc.2
    cases h
    exact Nat.lt_of_le_of_lt (Nat.sub_le_of_le_add (by omega : c.toNat ≤ 57 + 48)) (by decide)
  case isFalse => cases h

theorem fits_minus : minus.Fits := by decide

theorem fits_start {negative : Bool} {d : Nat} (h : d < significandLimit) :
    (start negative d).Fits := h

theorem Fits.addDecimal {n : NumberReader} (h : n.Fits) (d : Nat) : (n.addDecimal d).Fits := by
  unfold NumberReader.addDecimal
  split
  · assumption
  · exact h

theorem Fits.step {n n' : NumberReader} {strict : Bool} {c : Char} (hn : n.Fits)
    (h : n.step strict c = .ok (some n')) : n'.Fits := by
  have hdigit {d : Nat} : digit? c = some d → d < significandLimit := lt_of_digit?
  have hdecimal := hn.addDecimal
  unfold NumberReader.step pointOrMark markOnly addPower at h
  unfold Fits at hn hdecimal ⊢
  grind [start]

/-- Dividing by powers of ten leaves a whole number of 64 bits finite: every division but one by
`10 ^ 0` takes back what rounding adds. -/
theorem below_lower {f : Float} {k : Nat} (h : Below 67 f) : Below 68 (lower f k) := by
  induction k using Nat.strongRecOn generalizing f with
  | ind k ih =>
    unfold lower
    split
    case isTrue hk =>
      have hdiv : Below (67 - min (k : Int) 1 + 1) (f / powerOfTen k) :=
        below_div h (isPower_ofScientific hk).atLeast (by omega) (by omega)
      exact hdiv.mono (by omega)
    case isFalse hk =>
      split
      · exact h.mono (by decide)
      · exact ih (k - 308) (by omega)
          (below_div (l := 1) h (isPower_ofScientific (Nat.le_refl 308)).atLeast (by decide)
            (by decide))

theorem isFinite_raise {f x : Float} {k : Nat} (hf : f.isFinite = true) (h : raise f k = some x) :
    x.isFinite = true := by
  unfold raise at h
  split at h
  case isTrue hk =>
    dsimp only at h
    split at h
    · cases h
    · rename_i hinf
      cases h
      exact isFinite_mul_of_not_isInf hf (isPower_ofScientific hk).isFinite
        (Bool.eq_false_iff.mpr hinf)
  case isFalse =>
    split at h
    · cases h
      exact hf
    · cases h

theorem isFinite_scale {f x : Float} {e : Int} (hf : Below 67 f) (h : scale f e = some x) :
    x.isFinite = true := by
  unfold scale at h
  split at h
  · cases h
    exact (below_lower hf).isFinite
  · exact isFinite_raise hf.isFinite h

theorem inRange_double? {n : NumberReader} {v : Number} (hn : n.Fits) (h : n.double? = some v) :
    v.InRange := by
  unfold double? at h
  obtain ⟨x, hx, rfl⟩ := Option.map_eq_some_iff.mp h
  have hfinite := isFinite_scale (below_ofNat hn) hx
  cases n.negative with
  | true => exact isFinite_neg hfinite
  | false => exact hfinite

theorem inRange_value? {n : NumberReader} {v : Number} (hn : n.Fits) (h : n.value? = some v) :
    v.InRange := by
  unfold value? at h
  split at h
  case h_1 | h_2 =>
    split at h
    · cases h
      simpa [Number.InRange, Fits, significandLimit] using hn
    · split at h <;> cases h
      · exact isFinite_neg (below_ofNat hn).isFinite
      · simpa [Number.InRange, Fits, significandLimit] using hn
  case h_3 => exact inRange_double? hn h

end NumberReader

/-! ## The machine -/

def Frame.Regular : Frame → Prop
  | .item items => ∀ v ∈ items, v.Regular
  | .member members _ => members.Regular

def Goal.Regular : Goal → Prop
  | .item items | .itemEnd items => ∀ v ∈ items, v.Regular
  | .key members | .keyText members _ | .colon members _ | .memberEnd members => members.Regular
  | .number n => n.Fits
  | .word _ v | .done v => v.Regular
  | .value | .itemOrEnd | .keyOrEnd | .text _ => True

/-- What has been read so far is regular. -/
structure State.Regular (st : State) : Prop where
  goal : st.goal.Regular
  stack : ∀ f ∈ st.stack, f.Regular

namespace Reader

variable {rules : Rules}

theorem regular_nil : Members.Regular [] := .object List.nodup_nil nofun

theorem regular_supply {v : Value} {stack : List Frame} (hv : v.Regular)
    (hs : ∀ f ∈ stack, f.Regular) : (supply v stack).Regular := by
  unfold supply
  split
  · exact ⟨hv, nofun⟩
  · obtain ⟨hitems, hs⟩ := List.forall_mem_cons.mp hs
    exact ⟨List.forall_mem_cons.mpr ⟨hv, hitems⟩, hs⟩
  · obtain ⟨hmembers, hs⟩ := List.forall_mem_cons.mp hs
    exact ⟨Members.Regular.put hmembers hv, hs⟩

theorem regular_endNumber {n : NumberReader} {stack : List Frame} {st : State} (hn : n.Fits)
    (hs : ∀ f ∈ stack, f.Regular) (h : endNumber rules n stack = .ok st) : st.Regular := by
  unfold endNumber at h
  split at h
  · rename_i v hv
    cases h
    exact regular_supply (.number (NumberReader.inRange_value? hn hv)) hs
  · split at h <;> cases h
    exact regular_supply .null hs

theorem regular_start {stack : List Frame} {c : Char} {st : State} (h : Start rules stack c st)
    (hs : ∀ f ∈ stack, f.Regular) : st.Regular := by
  cases h with
  | null => exact ⟨.null, hs⟩
  | true | false => exact ⟨.bool _, hs⟩
  | string | list _ | object _ => exact ⟨trivial, hs⟩
  | minus => exact ⟨NumberReader.fits_minus, hs⟩
  | digit hd => exact ⟨NumberReader.fits_start (NumberReader.lt_of_digit? hd), hs⟩

theorem regular_valueStack {st : State} {stack : List Frame} (h : st.Regular)
    (hs : st.valueStack? = some stack) : ∀ f ∈ stack, f.Regular := by
  unfold State.valueStack? at hs
  split at hs <;> cases hs
  · exact h.stack
  · exact List.forall_mem_cons.mpr ⟨nofun, h.stack⟩
  · exact List.forall_mem_cons.mpr ⟨h.goal, h.stack⟩

/-- One character keeps what has been read regular. -/
theorem Move.regular {st st' : State} {c : Char} (hm : Move rules st c st') (h : st.Regular) :
    st'.Regular := by
  induction hm with
  | blank _ _ => exact h
  | start hs hstart => exact regular_start hstart (regular_valueStack h hs)
  | emptyList => exact regular_supply (.array nofun) h.stack
  | nextItem => exact ⟨h.goal, h.stack⟩
  | endList => exact regular_supply (.array fun v hv => h.goal v (List.mem_reverse.mp hv)) h.stack
  | emptyObject => exact regular_supply regular_nil h.stack
  | firstKey => exact ⟨regular_nil, h.stack⟩
  | nextKey | inKey _ | endKey _ | nextMember => exact ⟨h.goal, h.stack⟩
  | colon => exact ⟨trivial, List.forall_mem_cons.mpr ⟨h.goal, h.stack⟩⟩
  | endObject => exact regular_supply h.goal h.stack
  | inString _ => exact ⟨trivial, h.stack⟩
  | endString _ => exact regular_supply (.string _) h.stack
  | letter _ => exact ⟨h.goal, h.stack⟩
  | lastLetter | noLetter => exact regular_supply h.goal h.stack
  | inNumber hn => exact ⟨NumberReader.Fits.step h.goal hn, h.stack⟩
  | endNumber _ hn _ ih => exact ih (regular_endNumber h.goal h.stack hn)

theorem regular_finish {st : State} {v : Value} (h : st.Regular) (hf : finish rules st = .ok v) :
    v.Regular := by
  rcases finish_eq_ok hf with ⟨stack, rfl⟩ | ⟨n, rfl, -⟩
  · exact h.goal
  · simp only [finish] at hf
    split at hf
    · cases hf
    · cases hn : endNumber rules n [] with
      | error e =>
        rw [hn] at hf
        cases hf
      | ok st =>
        have hst := regular_endNumber h.goal h.stack hn
        obtain ⟨w, -, rfl⟩ := endNumber_eq_ok hn
        rw [hn] at hf
        cases hf
        exact hst.goal

theorem regular_run {n : Nat} {st : State} {cs : List Char} {v : Value} (h : st.Regular)
    (hrun : run rules n st cs = .ok v) : v.Regular := by
  induction cs generalizing n st with
  | nil => exact regular_finish h (run_nil_eq_ok.mp hrun)
  | cons c cs ih =>
    obtain ⟨st', hstep, hrun⟩ := run_cons_eq_ok.mp hrun
    exact ih ((move_of_advance hstep).regular h) hrun

theorem read_regular {cs : List Char} {v : Value} (h : read cs = .ok v) : v.Regular := by
  rw [read_eq_run] at h
  have hinitial : initial.Regular := ⟨trivial, nofun⟩
  exact regular_run hinitial h

end Reader

/-! ## Repaired texts -/

theorem Repair.parse_regular {budget : Nat} {text : String} {members : Members}
    (h : parse budget text = .ok members) : members.Regular := by
  cases hblank : Text.allBlank text with
  | true =>
    obtain rfl : members = [] := by simpa [parse, hblank] using h
    exact Reader.regular_nil
  | false =>
    obtain ⟨last, -, hparse⟩ := parse_eq_verdict budget hblank
    obtain ⟨v, hread, rfl⟩ := verdict_eq_ok (hparse.symm.trans h)
    have hv := Reader.read_regular hread
    cases v with
    | object members => exact hv
    | _ => exact Reader.regular_nil

end NewsSearch.Json
