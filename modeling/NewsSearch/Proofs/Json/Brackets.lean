import NewsSearch.Proofs.Json.Quotation

/-!
# Brackets

Only a closing bracket brings the reader out of a list or an object, and only a closing brace
completes an object.
-/

namespace NewsSearch.Json

/-! ## Open brackets -/

/-- The number of brackets that stand open. -/
def State.depth : State → Nat
  | ⟨.done _, _⟩ => 0
  | ⟨.value, stack⟩ | ⟨.text _, stack⟩ | ⟨.number _, stack⟩ | ⟨.word _ _, stack⟩ => stack.length
  | ⟨_, stack⟩ => stack.length + 1

namespace Reader

variable {rules : Rules} {st st' : State} {c : Char}

@[simp] theorem supply_depth (v : Value) (stack : List Frame) :
    (supply v stack).depth = stack.length := by
  unfold supply
  split <;> rfl

theorem depth_of_valueStack? {stack : List Frame} (h : st.valueStack? = some stack) :
    st.depth = stack.length := by
  unfold State.valueStack? at h
  split at h <;> cases h <;> rfl

theorem Start.depth_le {stack : List Frame} (h : Start rules stack c st) :
    stack.length ≤ st.depth := by
  cases h <;> simp [State.depth]

/-- Only a closing bracket lowers the number of open brackets. -/
theorem Move.depth_le (h : Move rules st c st') (hc : c ≠ ']' ∧ c ≠ '}') :
    st.depth ≤ st'.depth := by
  induction h with
  | blank => exact Nat.le_refl _
  | start hst hstart => exact depth_of_valueStack? hst ▸ hstart.depth_le
  | emptyList | endList => exact absurd rfl hc.1
  | emptyObject | endObject => exact absurd rfl hc.2
  | endString | lastLetter | noLetter => exact Nat.le_of_eq (supply_depth _ _).symm
  | endNumber _ hn _ ih =>
    obtain ⟨v, -, rfl⟩ := endNumber_eq_ok hn
    exact Nat.le_trans (Nat.le_of_eq (supply_depth v _).symm) (ih hc)
  | _ => exact Nat.le_refl _

theorem finish_depth {v : Value} (h : finish rules st = .ok v) : st.depth = 0 := by
  rcases finish_eq_ok h with ⟨stack, rfl⟩ | ⟨n, rfl, -⟩ <;> rfl

/-- A text cannot be read if a bracket stands open and no bracket is closed in the rest. -/
theorem run_of_open {n : Nat} {cs : List Char} (hopen : 0 < st.depth)
    (hcs : ∀ c ∈ cs, c ≠ ']' ∧ c ≠ '}') (v : Value) : run rules n st cs ≠ .ok v := by
  induction cs generalizing n st with
  | nil =>
    intro h
    have := finish_depth (run_nil_eq_ok.mp h)
    omega
  | cons c cs ih =>
    intro h
    obtain ⟨s, hs, hrun⟩ := run_cons_eq_ok.mp h
    have hle := (move_of_advance hs).depth_le (hcs c List.mem_cons_self)
    exact ih (Nat.lt_of_lt_of_le hopen hle) (fun d hd => hcs d (List.mem_cons_of_mem c hd)) hrun

/-! ## The closing brace -/

theorem supply_done {v w : Value} {stack : List Frame} (h : (supply v stack).goal = .done w) :
    w = v := by
  unfold supply at h
  split at h <;> cases h
  rfl

theorem Move.of_done {v : Value} (h : Move rules st c st') (hg : st.goal = .done v) :
    st' = st := by
  obtain ⟨goal, stack⟩ := st
  obtain rfl : goal = .done v := hg
  cases h with
  | blank => rfl
  | start hst => cases hst

/-- An object is complete only at a closing brace. -/
theorem Move.to_object {members : Members} (h : Move rules st c st') (hs : st.Sound)
    (hst : ∀ v, st.goal ≠ .done v) (hdone : st'.goal = .done (.object members)) : c = '}' := by
  induction h with
  | blank => exact absurd hdone (hst _)
  | start _ hstart => cases hstart <;> cases hdone
  | emptyObject | endObject => rfl
  | emptyList | endList | endString => cases supply_done hdone
  | lastLetter | noLetter =>
    obtain ⟨-, -, h | ⟨b, h⟩⟩ := hs <;> cases h.symm.trans (supply_done hdone).symm
  | endNumber _ hn hm ih =>
    obtain ⟨v, hv, rfl⟩ := endNumber_eq_ok hn
    refine ih (supply_goal v _).1 (fun w hw => ?_) hdone
    rw [hm.of_done hw] at hdone
    rcases hv with rfl | ⟨x, rfl⟩ <;> cases supply_done hdone
  | _ => cases hdone

theorem run_object {n : Nat} {cs : List Char} {members : Members} (hs : st.Sound)
    (hst : ∀ v, st.goal ≠ .done v) (h : run rules n st cs = .ok (.object members)) : '}' ∈ cs := by
  induction cs generalizing n st with
  | nil =>
    rcases finish_eq_ok (run_nil_eq_ok.mp h) with ⟨stack, rfl⟩ | ⟨m, -, hv | ⟨x, hv⟩⟩
    · exact absurd rfl (hst _)
    · cases hv
    · cases hv
  | cons c cs ih =>
    obtain ⟨⟨goal, stack⟩, hadv, hrun⟩ := run_cons_eq_ok.mp h
    have hm := move_of_advance hadv
    by_cases hdone : ∃ v, goal = .done v
    · obtain ⟨v, rfl⟩ := hdone
      obtain ⟨rfl, -⟩ := run_done_eq_ok hrun
      exact List.mem_cons.mpr (.inl (hm.to_object hs hst rfl).symm)
    · exact List.mem_cons_of_mem c (ih (hm.sound hs) (fun v hv => hdone ⟨v, hv⟩) hrun)

/-- A text that holds an object can do without what stands after the closing brace. -/
theorem read_kept {kept cut : List Char} {members : Members}
    (hread : read (kept ++ cut) = .ok (.object members)) (hcut : '}' ∉ cut) :
    read kept = .ok (.object members) := by
  rw [read_eq_run] at hread ⊢
  obtain ⟨⟨goal, stack⟩, hwalk⟩ := walk_of_run_ok _ _ _ _ _ hread
  rw [run_append _ _ _ _ _ hwalk] at hread
  have hrun := run_append 0 _ _ _ [] hwalk
  rw [List.append_nil] at hrun
  rw [hrun]
  by_cases hdone : ∃ v, goal = .done v
  · obtain ⟨v, rfl⟩ := hdone
    obtain ⟨rfl, -⟩ := run_done_eq_ok hread
    rfl
  · exact absurd (run_object (walk_sound hwalk trivial) (fun v hv => hdone ⟨v, hv⟩) hread) hcut

end Reader

end NewsSearch.Json
