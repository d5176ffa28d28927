import NewsSearch.Proofs.Decode.Printed
import NewsSearch.Proofs.Json.Grammar
import NewsSearch.Proofs.Json.Move

/-!
# Values that are skipped

A lenient reader passes over every text of a value and stops right after it, whatever it holds.
-/

namespace NewsSearch

open Json Json.Reader Json.Grammar Decode

namespace Json

/-- Blanks and a character that no number goes on with. -/
theorem endsToken_spaces_cons {bs : List Char} (hbs : AreSpaces bs) {c : Char}
    (hc : NumberReader.isPart c = false) (cs : List Char) : EndsToken (bs ++ c :: cs) :=
  endsToken_spaces hbs (endsToken_cons hc cs)

def Goal.isDone : Goal → Bool
  | .done _ => true
  | _ => false

namespace Reader

variable {rules : Rules} {st st' st'' : State} {stack : List Frame} {cs ds : List Char}

/-- The characters lead from one state to another. -/
def Leads (rules : Rules) (st : State) (cs : List Char) (st' : State) : Prop :=
  ∀ k rest, ∃ k', scan rules k st (cs ++ rest) = scan rules k' st' rest

theorem leads_nil : Leads rules st [] st := fun k _ => ⟨k, rfl⟩

theorem Leads.append (h : Leads rules st cs st') (h' : Leads rules st' ds st'') :
    Leads rules st (cs ++ ds) st'' := by
  intro k rest
  obtain ⟨k', hk'⟩ := h k (ds ++ rest)
  obtain ⟨k'', hk''⟩ := h' k' rest
  exact ⟨k'', by rw [List.append_assoc, hk', hk'']⟩

theorem leads_char {c : Char} (hsettle : settle rules st c = .ok st)
    (hdone : st.goal.isDone = false) (hstep : step rules st c = .ok st') : Leads rules st [c] st' := by
  intro k rest
  refine ⟨k + c.utf8Size, ?_⟩
  obtain ⟨goal, stack⟩ := st
  rw [List.singleton_append, scan, hsettle]
  cases goal with
  | done v => cases hdone
  | _ => simp only [hstep]

theorem leads_spaces (hg : st.goal.isBetween) (hdone : st.goal.isDone = false)
    (hcs : AreSpaces cs) : Leads rules st cs st := by
  induction cs with
  | nil => exact leads_nil
  | cons c cs ih =>
    obtain ⟨hc, hcs⟩ := List.forall_mem_cons.mp hcs
    refine (leads_char ?_ hdone ?_).append (ih hcs)
    · obtain ⟨goal, stack⟩ := st
      cases goal <;> first | rfl | cases hg
    · obtain ⟨goal, stack⟩ := st
      cases goal <;> first | exact if_pos hc | cases hg

theorem leads_begin (hst : st.valueStack? = some stack) {c : Char} (hspace : isSpace c = false)
    (hclose : c ≠ ']') (hbegin : begin rules stack c = .ok st') : Leads rules st [c] st' := by
  unfold State.valueStack? at hst
  split at hst <;> cases hst
  · exact leads_char rfl rfl (by simp [step, hspace, stepToken, hbegin])
  · exact leads_char rfl rfl (by simp [step, hspace, hclose, stepToken, hbegin])
  · exact leads_char rfl rfl (by simp [step, hspace, hclose, stepToken, hbegin])

/-- The characters of a string, or of a key. -/
theorem leads_string {goal : StringReader → Goal}
    (hgoal : goal = .text ∨ ∃ members, goal = .keyText members) {r r' : StringReader}
    (h : r.walk rules.strict cs = some r') : Leads rules ⟨goal r, stack⟩ cs ⟨goal r', stack⟩ := by
  induction cs generalizing r with
  | nil =>
    cases h
    exact leads_nil
  | cons c cs ih =>
    rw [StringReader.walk] at h
    split at h
    · rename_i next hstep
      have hchar : Leads rules ⟨goal r, stack⟩ [c] ⟨goal next, stack⟩ := by
        rcases hgoal with rfl | ⟨members, rfl⟩
        · exact leads_char rfl rfl (by simp [step, hstep])
        · exact leads_char rfl rfl (by simp [step, hstep])
      exact hchar.append (ih h)
    · cases h

theorem leads_number {n n' : NumberReader} (h : n.walk rules.strict cs = .ok (some n')) :
    Leads rules ⟨.number n, stack⟩ cs ⟨.number n', stack⟩ := by
  induction cs generalizing n with
  | nil =>
    cases h
    exact leads_nil
  | cons c cs ih =>
    rw [NumberReader.walk] at h
    cases hstep : n.step rules.strict c with
    | error e =>
      rw [hstep] at h
      cases h
    | ok o =>
      rw [hstep] at h
      cases o with
      | none => cases h
      | some next =>
        have hchar : Leads rules ⟨.number n, stack⟩ [c] ⟨.number next, stack⟩ :=
          leads_char (by simp [settle, hstep]) rfl (by simp [step, hstep])
        exact hchar.append (ih h)

/-! ## Passing over a value -/

/-- The text leads to the end of a value, whatever follows it. -/
def Passes (rules : Rules) (st : State) (cs : List Char) (stack : List Frame) : Prop :=
  ∀ k rest, EndsToken rest →
    ∃ v k', scan rules k st (cs ++ rest) = scan rules k' (supply v stack) rest

theorem Leads.passes {v : Value} (h : Leads rules st cs (supply v stack)) :
    Passes rules st cs stack := fun k rest _ => ⟨v, h k rest⟩

theorem Leads.append_passes (h : Leads rules st cs st') (h' : Passes rules st' ds stack) :
    Passes rules st (cs ++ ds) stack := by
  intro k rest hrest
  obtain ⟨k', hk'⟩ := h k (ds ++ rest)
  obtain ⟨v, k'', hk''⟩ := h' k' rest hrest
  exact ⟨v, k'', by rw [List.append_assoc, hk', hk'']⟩

/-- A value inside another one, and what is left of that. -/
theorem Passes.append {stack' : List Frame} (h : Passes rules st cs stack')
    (hds : ∀ rest, EndsToken rest → EndsToken (ds ++ rest))
    (h' : ∀ v, Passes rules (supply v stack') ds stack) : Passes rules st (cs ++ ds) stack := by
  intro k rest hrest
  obtain ⟨v, k', hk'⟩ := h k (ds ++ rest) (hds rest hrest)
  obtain ⟨w, k'', hk''⟩ := h' v k' rest hrest
  exact ⟨w, k'', by rw [List.append_assoc, hk', hk'']⟩

/-- A lenient reader takes a complete number at any size. -/
theorem endNumber_lenient (h : rules.strict = false) (n : NumberReader) (stack : List Frame) :
    ∃ v, endNumber rules n stack = .ok (supply v stack) := by
  unfold endNumber
  split
  · exact ⟨_, rfl⟩
  · exact ⟨.null, by simp [h]⟩

theorem passes_complete (h : rules.strict = false) {n : NumberReader} (hn : n.isComplete) :
    Passes rules ⟨.number n, stack⟩ [] stack := by
  intro k rest hrest
  obtain ⟨v, hv⟩ := endNumber_lenient h n stack
  refine ⟨v, k, ?_⟩
  rw [List.nil_append, scan_complete hn k hrest, hv]

theorem begin_digit {c : Char} {d : Nat} (hd : NumberReader.digit? c = some d) :
    begin rules stack c = .ok ⟨.number (.start false d), stack⟩ := by
  unfold begin
  split
  case h_8 => rw [hd]
  all_goals cases hd

theorem passes_number (h : rules.strict = false) (hst : st.valueStack? = some stack)
    (hcs : IsNumber cs) : Passes rules st cs stack := by
  have hrest {n : NumberReader} {ds : List Char}
      (hds : NumberReader.Takes rules.strict n ds fun n => n.isComplete) :
      Passes rules ⟨.number n, stack⟩ ds stack := by
    rcases hds with ⟨n', hwalk, hn'⟩ | ⟨hstrict, -⟩
    · rw [← List.append_nil ds]
      exact (leads_number hwalk).append_passes (passes_complete h hn')
    · rw [h] at hstrict
      cases hstrict
  rcases NumberReader.takes_number rules.strict hcs with
    ⟨cs', rfl, htake⟩ | ⟨c, cs', d, rfl, hd, htake⟩
  · exact (leads_begin hst rfl (by decide) rfl).append_passes (hrest htake)
  · have hdigit := startsItem_of_isDigit (NumberReader.isDigit_of_digit? hd)
    exact (leads_begin hst hdigit.1 hdigit.2 (begin_digit hd)).append_passes (hrest htake)

theorem Leads.cons_passes {c : Char} (h : Leads rules st [c] st') (h' : Passes rules st' ds stack) :
    Passes rules st (c :: ds) stack := h.append_passes h'

theorem passes_string (h : rules.strict = false) (hst : st.valueStack? = some stack)
    (hcs : IsBody cs) : Passes rules st ('"' :: (cs ++ ['"'])) stack := by
  obtain ⟨r, hwalk, hr⟩ := StringReader.walk_body hcs (r := .opened) rfl
  rw [← h] at hwalk
  have hclose : step rules ⟨.text r, stack⟩ '"' =
      .ok (supply (.string (String.ofList r.content.reverse)) stack) := by
    simp [step, StringReader.step, hr]
  have hend : Passes rules ⟨.text r, stack⟩ ['"'] stack :=
    Leads.passes (leads_char rfl rfl hclose)
  exact (leads_begin hst rfl (by decide) rfl).cons_passes
    ((leads_string (.inl rfl) hwalk).append_passes hend)

theorem leads_word {v : Value} {letter : Char} {letters : List Char} :
    Leads rules ⟨.word (letter :: letters) v, stack⟩ (letter :: letters) (supply v stack) := by
  induction letters generalizing letter with
  | nil => exact leads_char rfl rfl (by simp [step])
  | cons next letters ih =>
    have hchar : Leads rules ⟨.word (letter :: next :: letters) v, stack⟩ [letter]
        ⟨.word (next :: letters) v, stack⟩ := leads_char rfl rfl (by simp [step])
    exact hchar.append ih

/-- The states in which a part may follow. What it belongs to ends inside the frames. -/
def Expects (st : State) (stack : List Frame) : Part → Prop
  | .value => st.valueStack? = some stack
  | .items => ∃ items, st.valueStack? = some (.item items :: stack)
  | .members => st = ⟨.keyOrEnd, stack⟩ ∨ ∃ members, st = ⟨.key members, stack⟩

theorem leads_spaces_value (hst : st.valueStack? = some stack) (hcs : AreSpaces cs) :
    Leads rules st cs st := by
  obtain ⟨goal, stack'⟩ := st
  cases goal <;> cases hst <;> exact leads_spaces rfl rfl hcs

theorem passes_key (h : rules.strict = false) (hst : Expects st stack .members)
    {bs key bs₁ : List Char} (hbs : AreSpaces bs) (hkey : IsBody key) (hbs₁ : AreSpaces bs₁)
    (hds : ∀ members k, Passes rules ⟨.value, .member members k :: stack⟩ ds stack) :
    Passes rules st (bs ++ '"' :: (key ++ '"' :: (bs₁ ++ ':' :: ds))) stack := by
  obtain ⟨r, hwalk, hr⟩ := StringReader.walk_body hkey (r := .opened) rfl
  rw [← h] at hwalk
  obtain ⟨members, hblank, hquote⟩ : ∃ members, Leads rules st bs st ∧
      Leads rules st ['"'] ⟨.keyText members .opened, stack⟩ := by
    rcases hst with rfl | ⟨members, rfl⟩
    · exact ⟨[], leads_spaces rfl rfl hbs, leads_char rfl rfl rfl⟩
    · exact ⟨members, leads_spaces rfl rfl hbs, leads_char rfl rfl rfl⟩
  have hclose : Leads rules ⟨.keyText members r, stack⟩ ['"']
      ⟨.colon members (String.ofList r.content.reverse), stack⟩ :=
    leads_char rfl rfl (by simp [step, StringReader.step, hr])
  refine hblank.append_passes (hquote.cons_passes ?_)
  refine (leads_string (.inr ⟨members, rfl⟩) hwalk).append_passes (hclose.cons_passes ?_)
  refine Leads.append_passes (leads_spaces rfl rfl hbs₁) ?_
  exact Leads.cons_passes (leads_char rfl rfl rfl) (hds members _)

/-- A lenient reader passes over every value. -/
theorem passes_text (h : rules.strict = false) {part : Part} (hcs : IsText part cs)
    (hst : Expects st stack part) : Passes rules st cs stack := by
  -- A part is read from whatever state its opening left, so state and frames vary.
  induction hcs generalizing st stack with
  | null => exact (leads_begin hst rfl (by decide) rfl).cons_passes leads_word.passes
  | true => exact (leads_begin hst rfl (by decide) rfl).cons_passes leads_word.passes
  | false => exact (leads_begin hst rfl (by decide) rfl).cons_passes leads_word.passes
  | number hcs => exact passes_number h hst hcs
  | string hcs => exact passes_string h hst hcs
  | emptyList hbs =>
    have hopen : begin rules stack '[' = .ok ⟨.itemOrEnd, stack⟩ := by simp [begin, openBracket, h]
    have hclose : Leads rules ⟨.itemOrEnd, stack⟩ [']'] (supply (.array []) stack) :=
      leads_char rfl rfl rfl
    exact (leads_begin hst rfl (by decide) hopen).cons_passes
      (Leads.append_passes (leads_spaces rfl rfl hbs) hclose.passes)
  | list _ ih =>
    have hopen : begin rules stack '[' = .ok ⟨.itemOrEnd, stack⟩ := by simp [begin, openBracket, h]
    exact (leads_begin hst rfl (by decide) hopen).cons_passes (ih ⟨[], rfl⟩)
  | emptyObject hbs =>
    have hopen : begin rules stack '{' = .ok ⟨.keyOrEnd, stack⟩ := by simp [begin, openBracket, h]
    have hclose : Leads rules ⟨.keyOrEnd, stack⟩ ['}'] (supply (.object []) stack) :=
      leads_char rfl rfl rfl
    exact (leads_begin hst rfl (by decide) hopen).cons_passes
      (Leads.append_passes (leads_spaces rfl rfl hbs) hclose.passes)
  | object _ ih =>
    have hopen : begin rules stack '{' = .ok ⟨.keyOrEnd, stack⟩ := by simp [begin, openBracket, h]
    exact (leads_begin hst rfl (by decide) hopen).cons_passes (ih (.inl rfl))
  | lastItem hbs hv hbs₁ ih =>
    obtain ⟨items, hst⟩ := hst
    refine (leads_spaces_value hst hbs).append_passes ?_
    refine (ih hst).append (fun rest _ => ?_) fun v => ?_
    · rw [List.append_assoc]
      exact endsToken_spaces_cons hbs₁ rfl rest
    · have hend : Leads rules (supply v (.item items :: stack)) [']']
          (supply (.array (v :: items).reverse) stack) := leads_char rfl rfl rfl
      exact Leads.append_passes (leads_spaces rfl rfl hbs₁) hend.passes
  | item hbs hv hbs₁ _ ihv ih =>
    obtain ⟨items, hst⟩ := hst
    refine (leads_spaces_value hst hbs).append_passes ?_
    refine (ihv hst).append (fun rest _ => ?_) fun v => ?_
    · rw [List.append_assoc]
      exact endsToken_spaces_cons hbs₁ rfl _
    · have hcomma : Leads rules (supply v (.item items :: stack)) [',']
          ⟨.item (v :: items), stack⟩ := leads_char rfl rfl rfl
      exact Leads.append_passes (leads_spaces rfl rfl hbs₁) (hcomma.cons_passes (ih ⟨_, rfl⟩))
  | lastMember hbs hkey hbs₁ hbs₂ hv hbs₃ ih =>
    refine passes_key h hst hbs hkey hbs₁ fun members k => ?_
    refine Leads.append_passes (leads_spaces rfl rfl hbs₂) ?_
    refine Passes.append (ih rfl) (fun rest _ => ?_) fun v => ?_
    · rw [List.append_assoc]
      exact endsToken_spaces_cons hbs₃ rfl rest
    · have hend : Leads rules (supply v (.member members k :: stack)) ['}']
          (supply (.object (put k v members)) stack) := leads_char rfl rfl rfl
      exact Leads.append_passes (leads_spaces rfl rfl hbs₃) hend.passes
  | member hbs hkey hbs₁ hbs₂ hv hbs₃ _ ihv ih =>
    refine passes_key h hst hbs hkey hbs₁ fun members k => ?_
    refine Leads.append_passes (leads_spaces rfl rfl hbs₂) ?_
    refine Passes.append (ihv rfl) (fun rest _ => ?_) fun v => ?_
    · rw [List.append_assoc]
      exact endsToken_spaces_cons hbs₃ rfl _
    · have hcomma : Leads rules (supply v (.member members k :: stack)) [',']
          ⟨.key (put k v members), stack⟩ := leads_char rfl rfl rfl
      exact Leads.append_passes (leads_spaces rfl rfl hbs₃)
        (hcomma.cons_passes (ih (.inr ⟨_, rfl⟩)))

end Reader

end Json

/-- Whatever the value is, the text after it is left. -/
theorem Decode.skipValue_text {bs cs rest : List Char} (hbs : AreSpaces bs) (hcs : IsText .value cs)
    (hrest : EndsToken rest) : skipValue (bs ++ (cs ++ rest)) = .ok rest := by
  have hpass : Reader.Passes ⟨false, 0⟩ Reader.initial (bs ++ cs) [] :=
    Leads.append_passes (leads_spaces rfl rfl hbs) (passes_text rfl hcs rfl)
  obtain ⟨v, k, hscan⟩ := hpass 0 rest hrest
  rw [List.append_assoc] at hscan
  rw [skipValue, hscan, supply, scan_done]

end NewsSearch
