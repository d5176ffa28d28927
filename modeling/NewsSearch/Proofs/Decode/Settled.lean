import NewsSearch.Proofs.Decode.Skipped

/-!
# What a value alone settles

Whether a decoder takes the text of a value, and as what, is settled by that text: neither the
blanks before it nor what follows matter. That holds of strings, of whole numbers, of what may be
null, and of lists of anything it holds of.
-/

namespace NewsSearch.Decode

open Json Json.Grammar

variable {α β : Type} {d : Decoder α} {room : Nat} {cs : List Char}

/-- The decoder fails on the text, wherever it stands. -/
def Decoder.Refuses (d : Decoder α) (room : Nat) (cs : List Char) : Prop :=
  ∀ bs rest, AreSpaces bs → EndsToken rest → ∃ e, d.ofText room (bs ++ (cs ++ rest)) = .error e

def Decoder.Settles (d : Decoder α) (room : Nat) (cs : List Char) : Prop :=
  (∃ a, d.Reads room cs a) ∨ d.Refuses room cs

theorem Decoder.Refuses.map (h : d.Refuses room cs) (f : α → β) : (d.map f).Refuses room cs := by
  intro bs rest hbs hrest
  obtain ⟨e, he⟩ := h bs rest hbs hrest
  refine ⟨e, ?_⟩
  unfold Decoder.map Decoder.refine
  dsimp only
  rw [he]
  rfl

theorem Decoder.Settles.map (h : d.Settles room cs) (f : α → β) : (d.map f).Settles room cs :=
  h.imp (fun ⟨a, ha⟩ => ⟨f a, ha.map f⟩) fun hd => hd.map f

theorem settles_of {σ : Type} {name : String} {aliases : List String} {set : α → σ → σ}
    (h : d.Settles room cs) : (Field.of name aliases d set).update.Settles room cs :=
  h.map set

/-- The value alone says what comes out. -/
theorem Decoder.Settles.toOption_ofText (h : d.Settles room cs) {bs rest : List Char}
    (hbs : AreSpaces bs) (hrest : EndsToken rest) :
    (d.ofText room (bs ++ (cs ++ rest))).toOption =
      ((d.ofText room cs).toOption.map Prod.fst).map (·, rest) := by
  rcases h with ⟨a, ha⟩ | hfault
  · have halone := ha.ofText [] [] areSpaces_nil endsToken_nil
    rw [List.nil_append, List.append_nil] at halone
    rw [ha.ofText bs rest hbs hrest, halone]
    rfl
  · obtain ⟨e, he⟩ := hfault bs rest hbs hrest
    obtain ⟨e', halone⟩ := hfault [] [] areSpaces_nil endsToken_nil
    rw [List.nil_append, List.append_nil] at halone
    rw [he, halone]
    rfl

/-! ## First characters -/

theorem exists_cons_of_isNumber (h : IsNumber cs) :
    ∃ c cs', cs = c :: cs' ∧ (c = '-' ∨ c.isDigit) := by
  rcases NumberReader.takes_number true h with ⟨cs', rfl, -⟩ | ⟨c, cs', d, rfl, hd, -⟩
  · exact ⟨_, _, rfl, .inl rfl⟩
  · exact ⟨_, _, rfl, .inr (NumberReader.isDigit_of_digit? hd)⟩

theorem startsItem_of_number {c : Char} (hc : c = '-' ∨ c.isDigit) : StartsItem c := by
  rcases hc with rfl | hc
  · decide
  · exact startsItem_of_isDigit hc

theorem isItem_of_isText (h : IsText .value cs) : IsItem cs := by
  cases h with
  | number hcs =>
    obtain ⟨c, cs', rfl, hc⟩ := exists_cons_of_isNumber hcs
    exact ⟨_, _, rfl, startsItem_of_number hc⟩
  | _ => exact ⟨_, _, rfl, by decide⟩

theorem length_pos_of_isItem (h : IsItem cs) : 0 < cs.length := by
  obtain ⟨c, cs, rfl, -⟩ := h
  exact Nat.succ_pos cs.length

/-! ## Strings -/

theorem string_ofText {bs : List Char} (hbs : AreSpaces bs) (cs : List Char) :
    Decoder.string.ofText room (bs ++ '"' :: cs) = readString .opened cs := by
  simp only [Decoder.string, skipSpaces_start hbs (show Reader.isSpace '"' = false from rfl)]

theorem string_refuses {c : Char} (hspace : Reader.isSpace c = false) (hquote : c ≠ '"')
    (cs : List Char) : Decoder.string.Refuses room (c :: cs) := by
  intro bs rest hbs _
  rw [List.cons_append]
  simp only [Decoder.string, skipSpaces_start hbs hspace]
  split
  case h_1 heq => cases heq
  case h_2 heq => exact absurd (List.cons.inj heq).1 hquote
  case h_3 => exact ⟨_, rfl⟩

theorem settles_string (h : IsText .value cs) : Decoder.string.Settles room cs := by
  cases h with
  | @string body hbody =>
    rcases readString_settled [] hbody (.inl rfl) with ⟨s, hs⟩ | hfault
    · refine .inl ⟨s, isItem_of_isText (.string hbody), fun bs rest hbs _ => ?_⟩
      rw [List.cons_append, string_ofText hbs, List.append_assoc]
      exact hs rest
    · refine .inr fun bs rest hbs _ => ?_
      rw [List.cons_append, string_ofText hbs, List.append_assoc]
      exact hfault rest
  | number hcs =>
    obtain ⟨c, cs', rfl, hc⟩ := exists_cons_of_isNumber hcs
    refine .inr (string_refuses (startsItem_of_number hc).1 ?_ cs')
    rintro rfl
    exact absurd hc (by decide)
  | _ => exact .inr (string_refuses rfl (by decide) _)

theorem Decoder.Settles.nullable {c : Char} (h : d.Settles room (c :: cs)) (hstart : StartsItem c)
    (hne : c ≠ 'n') : d.nullable.Settles room (c :: cs) := by
  rcases h with ⟨a, ha⟩ | hfault
  · exact .inl ⟨some a, ha.nullable hne⟩
  · refine .inr fun bs rest hbs hrest => ?_
    obtain ⟨e, he⟩ := hfault [] rest areSpaces_nil hrest
    rw [List.nil_append, List.cons_append] at he
    rw [List.cons_append, nullable_ofText hbs hstart.1 hne, he]
    exact ⟨e, rfl⟩

/-- What may be null is null, or settled as without that. -/
theorem settles_nullable (hd : ∀ cs, IsText .value cs → d.Settles room cs) (h : IsText .value cs) :
    d.nullable.Settles room cs := by
  have hcs := hd cs h
  cases h with
  | null => exact .inl ⟨none, reads_null⟩
  | number hnumber =>
    obtain ⟨c, cs', rfl, hc⟩ := exists_cons_of_isNumber hnumber
    refine hcs.nullable (startsItem_of_number hc) ?_
    rintro rfl
    exact absurd hc (by decide)
  | _ => exact hcs.nullable (by decide) (by decide)

/-! ## Whole numbers -/

section Numbers

open Reader

theorem scan_fault {rules : Rules} {stack : List Frame} {n : NumberReader} {e : Cause}
    (h : n.walk rules.strict cs = .error e) (k : Nat) (rest : List Char) :
    ∃ f, scan rules k ⟨.number n, stack⟩ (cs ++ rest) = .error f := by
  induction cs generalizing n k with
  | nil => cases h
  | cons c cs ih =>
    rw [NumberReader.walk] at h
    cases hstep : n.step rules.strict c with
    | error e => exact ⟨⟨e, k + 1⟩, by simp [scan, settle, hstep]⟩
    | ok o =>
      rw [hstep] at h
      cases o with
      | none => cases h
      | some next =>
        have hscan : scan rules k ⟨.number n, stack⟩ (c :: (cs ++ rest)) =
            scan rules (k + c.utf8Size) ⟨.number next, stack⟩ (cs ++ rest) := by
          simp [scan, settle, step, hstep]
        rw [List.cons_append, hscan]
        exact ih h _

theorem scan_settled {rules : Rules} {n : NumberReader}
    (h : NumberReader.Takes rules.strict n cs fun n => n.isComplete) :
    (∃ v, ∀ k rest, EndsToken rest → scan rules k ⟨.number n, []⟩ (cs ++ rest) = .ok (v, rest)) ∨
      ∀ k rest, EndsToken rest → ∃ f, scan rules k ⟨.number n, []⟩ (cs ++ rest) = .error f := by
  rcases h with ⟨n', hwalk, hn'⟩ | ⟨-, e, hwalk⟩
  · have hleads : Leads rules ⟨.number n, []⟩ cs ⟨.number n', []⟩ := leads_number hwalk
    cases hend : endNumber rules n' [] with
    | error e =>
      refine .inr fun k rest hrest => ?_
      obtain ⟨k', hk⟩ := hleads k rest
      rw [hk, scan_complete hn' k' hrest, hend]
      exact ⟨_, rfl⟩
    | ok st =>
      obtain ⟨v, -, rfl⟩ := endNumber_eq_ok hend
      refine .inl ⟨v, fun k rest hrest => ?_⟩
      obtain ⟨k', hk⟩ := hleads k rest
      rw [hk, scan_complete hn' k' hrest, hend]
      exact scan_done k' v [] rest
  · exact .inr fun k rest _ => scan_fault hwalk k rest

theorem readValue_settled (h : IsNumber cs) :
    (∃ v, ∀ rest, EndsToken rest → readValue room (cs ++ rest) = .ok (v, rest)) ∨
      ∀ rest, EndsToken rest → ∃ e, readValue room (cs ++ rest) = .error e := by
  obtain ⟨c, cs', n, rfl, hc, hbegin, htake⟩ : ∃ c cs' n, cs = c :: cs' ∧ (c = '-' ∨ c.isDigit) ∧
      begin ⟨true, room⟩ [] c = .ok ⟨.number n, []⟩ ∧
      NumberReader.Takes (Rules.strict ⟨true, room⟩) n cs' fun n => n.isComplete := by
    rcases NumberReader.takes_number true h with ⟨cs', rfl, htake⟩ | ⟨c, cs', d, rfl, hd, htake⟩
    · exact ⟨_, _, _, rfl, .inl rfl, rfl, htake⟩
    · exact ⟨_, _, _, rfl, .inr (NumberReader.isDigit_of_digit? hd), begin_digit hd, htake⟩
  have hstart := startsItem_of_number hc
  have hleads : Leads ⟨true, room⟩ initial [c] ⟨.number n, []⟩ :=
    leads_begin rfl hstart.1 hstart.2 hbegin
  rcases scan_settled htake with ⟨v, hv⟩ | hfault
  · refine .inl ⟨v, fun rest hrest => ?_⟩
    obtain ⟨k, hk⟩ := hleads 0 (cs' ++ rest)
    rw [List.singleton_append] at hk
    rw [List.cons_append, readValue, hk, hv k rest hrest]
  · refine .inr fun rest hrest => ?_
    obtain ⟨k, hk⟩ := hleads 0 (cs' ++ rest)
    obtain ⟨f, hf⟩ := hfault k rest hrest
    rw [List.singleton_append] at hk
    rw [List.cons_append, readValue, hk, hf]
    exact ⟨_, rfl⟩

end Numbers

theorem uint32_refuses {c : Char} (hspace : Reader.isSpace c = false) (hc : ¬ (c = '-' ∨ c.isDigit))
    (cs : List Char) : Decoder.uint32.Refuses room (c :: cs) := by
  intro bs rest hbs _
  rw [List.cons_append]
  simp only [Decoder.uint32, skipSpaces_start hbs hspace, if_neg hc]
  exact ⟨_, rfl⟩

theorem uint32_ofText_eq {bs : List Char} (hbs : AreSpaces bs) {c : Char} (hc : c = '-' ∨ c.isDigit)
    (cs : List Char) : Decoder.uint32.ofText room (bs ++ c :: cs) =
      (readValue room (c :: cs)).bind fun r => (Decoder.uint32.ofValue r.1).map (·, r.2) := by
  simp only [Decoder.uint32, skipSpaces_start hbs (startsItem_of_number hc).1, if_pos hc]
  cases readValue room (c :: cs) with
  | error e => rfl
  | ok r =>
    obtain ⟨v, rest⟩ := r
    cases v with
    | number n =>
      dsimp only [bind, Except.bind]
      cases Decoder.toUInt32 n <;> rfl
    | _ => rfl

theorem settles_uint32 (h : IsText .value cs) : Decoder.uint32.Settles room cs := by
  have hitem := isItem_of_isText h
  cases h with
  | number hnumber =>
    have hread := @readValue_settled room _ hnumber
    obtain ⟨c, cs', rfl, hc⟩ := exists_cons_of_isNumber hnumber
    rcases hread with ⟨v, hv⟩ | hfault
    · have hof {bs rest : List Char} (hbs : AreSpaces bs) (hrest : EndsToken rest) :
          Decoder.uint32.ofText room (bs ++ (c :: cs' ++ rest)) =
            (Decoder.uint32.ofValue v).map (·, rest) := by
        have hread := hv rest hrest
        rw [List.cons_append] at hread ⊢
        rw [uint32_ofText_eq hbs hc, hread]
        rfl
      cases hn : Decoder.uint32.ofValue v with
      | error e => exact .inr fun bs rest hbs hrest => ⟨e, by rw [hof hbs hrest, hn]; rfl⟩
      | ok n => exact .inl ⟨n, hitem, fun bs rest hbs hrest => by rw [hof hbs hrest, hn]; rfl⟩
    · refine .inr fun bs rest hbs hrest => ?_
      obtain ⟨e, he⟩ := hfault rest hrest
      rw [List.cons_append] at he ⊢
      rw [uint32_ofText_eq hbs hc, he]
      exact ⟨e, rfl⟩
  | _ => exact .inr (uint32_refuses rfl (by decide) _)

/-! ## Lists -/

theorem nextItem_spaces {bs : List Char} (hbs : AreSpaces bs) (first : Bool) (cs : List Char) :
    nextItem first (bs ++ cs) = nextItem first cs := by
  unfold nextItem
  rw [skipSpaces_append hbs]

theorem items_spaces {bs : List Char} (hbs : AreSpaces bs) (fuel : Nat) (first : Bool)
    (cs : List Char) : d.items room fuel first (bs ++ cs) = d.items room fuel first cs := by
  cases fuel with
  | zero => rfl
  | succ fuel => rw [Decoder.items, Decoder.items, nextItem_spaces hbs]

theorem items_of_fault {first : Bool} {cs' : List Char} {e : Problem}
    (h : nextItem first cs = .ok (.go cs')) (hread : d.ofText room cs' = .error e) (fuel : Nat) :
    d.items room (fuel + 1) first cs = .error e := by
  simp only [Decoder.items, h, hread, bind, Except.bind]

/-- What comes first stands alone, anything else after a comma. -/
def after (first : Bool) (cs : List Char) : List Char := if first then cs else ',' :: cs

theorem after_append (first : Bool) (cs rest : List Char) :
    after first cs ++ rest = after first (cs ++ rest) := by
  cases first <;> rfl

theorem nextItem_after {bs : List Char} (hbs : AreSpaces bs) (hcs : IsItem cs) (first : Bool)
    (rest : List Char) :
    nextItem first (after first (bs ++ (cs ++ rest))) = .ok (.go (cs ++ rest)) := by
  cases first with
  | true => exact nextItem_first hbs hcs rest
  | false => exact nextItem_next hbs hcs rest

/-- The items up to the end of the text are settled by it, as soon as there is enough fuel. -/
def Decoder.ItemsSettle (d : Decoder α) (room n : Nat) (first : Bool) (cs : List Char) : Prop :=
  (∃ as, ∀ rest fuel, n ≤ fuel → d.items room fuel first (cs ++ rest) = .ok (as, rest)) ∨
    ∀ rest fuel, n ≤ fuel → ∃ e, d.items room fuel first (cs ++ rest) = .error e

variable {n : Nat}

theorem Decoder.ItemsSettle.mono {m : Nat} {first : Bool} (h : d.ItemsSettle room n first cs)
    (hle : n ≤ m) : d.ItemsSettle room m first cs :=
  h.imp (fun ⟨as, has⟩ => ⟨as, fun rest fuel hfuel => has rest fuel (hle.trans hfuel)⟩)
    fun hfault rest fuel hfuel => hfault rest fuel (hle.trans hfuel)

theorem Decoder.ItemsSettle.spaces {bs : List Char} (h : d.ItemsSettle room n false cs)
    (hbs : AreSpaces bs) : d.ItemsSettle room n false (bs ++ cs) := by
  unfold Decoder.ItemsSettle at h ⊢
  simpa only [List.append_assoc, items_spaces hbs] using h

theorem itemsSettle_stop : d.ItemsSettle room 1 false [']'] := by
  refine .inl ⟨[], fun rest fuel hfuel => ?_⟩
  obtain ⟨fuel, rfl⟩ := Nat.exists_eq_add_one.mpr hfuel
  exact items_of_stop (nextItem_stop areSpaces_nil false rest) fuel

/-- One item more. If the decoder refuses it, nothing after it counts. -/
theorem Decoder.ItemsSettle.cons {bs v : List Char} (h : d.ItemsSettle room n false cs)
    (hends : ∀ rest, EndsToken (cs ++ rest)) (hbs : AreSpaces bs) (hv : IsText .value v)
    (hd : d.Settles room v) (first : Bool) :
    d.ItemsSettle room (n + 1) first (after first (bs ++ (v ++ cs))) := by
  have hnext (rest : List Char) : nextItem first (after first (bs ++ (v ++ cs)) ++ rest) =
      .ok (.go (v ++ (cs ++ rest))) := by
    rw [after_append, List.append_assoc, List.append_assoc]
    exact nextItem_after hbs (isItem_of_isText hv) first (cs ++ rest)
  rcases hd with ⟨a, ha⟩ | hfault
  · have hstep (rest : List Char) (fuel : Nat) :
        d.items room (fuel + 1) first (after first (bs ++ (v ++ cs)) ++ rest) =
          (d.items room fuel false (cs ++ rest)).map fun r => (a :: r.1, r.2) :=
      items_of_go (hnext rest) (ha.ofText [] _ areSpaces_nil (hends rest)) fuel
    rcases h with ⟨as, has⟩ | hfault
    · refine .inl ⟨a :: as, fun rest fuel hfuel => ?_⟩
      obtain ⟨fuel, rfl⟩ := Nat.exists_eq_add_one.mpr (Nat.zero_lt_of_lt hfuel)
      rw [hstep, has rest fuel (Nat.le_of_lt_succ hfuel)]
      rfl
    · refine .inr fun rest fuel hfuel => ?_
      obtain ⟨fuel, rfl⟩ := Nat.exists_eq_add_one.mpr (Nat.zero_lt_of_lt hfuel)
      obtain ⟨e, he⟩ := hfault rest fuel (Nat.le_of_lt_succ hfuel)
      exact ⟨e, by rw [hstep, he]; rfl⟩
  · refine .inr fun rest fuel hfuel => ?_
    obtain ⟨fuel, rfl⟩ := Nat.exists_eq_add_one.mpr (Nat.zero_lt_of_lt hfuel)
    obtain ⟨e, he⟩ := hfault [] _ areSpaces_nil (hends rest)
    exact ⟨e, items_of_fault (hnext rest) he fuel⟩

theorem itemsSettle (hd : ∀ cs, IsText .value cs → d.Settles room cs) (h : IsText .items cs)
    (first : Bool) : d.ItemsSettle room cs.length first (after first cs) := by
  -- Only the two ways to go on with a list are at hand: the other parts are no items.
  generalize hpart : Part.items = part at h
  induction h generalizing first with
  | @lastItem bs v bs' hbs hv hbs' _ =>
    have hends (rest : List Char) : EndsToken (bs' ++ [']'] ++ rest) := by
      rw [List.append_assoc]
      exact endsToken_spaces_cons hbs' rfl rest
    refine ((itemsSettle_stop.spaces hbs').cons hends hbs hv (hd v hv) first).mono ?_
    have hlength := length_pos_of_isItem (isItem_of_isText hv)
    simp only [List.length_append, List.length_singleton]
    omega
  | @item bs v bs' cs hbs hv hbs' _ _ ih =>
    have hends (rest : List Char) : EndsToken (bs' ++ ',' :: cs ++ rest) := by
      rw [List.append_assoc]
      exact endsToken_spaces_cons hbs' rfl (cs ++ rest)
    refine (((ih false rfl).spaces hbs').cons hends hbs hv (hd v hv) first).mono ?_
    simp only [List.length_append, List.length_cons]
    omega
  | _ => cases hpart

theorem list_refuses {c : Char} (hspace : Reader.isSpace c = false) (hc : c ≠ '[')
    (cs : List Char) : d.list.Refuses room (c :: cs) := by
  intro bs rest hbs _
  rw [List.cons_append]
  simp only [Decoder.list, skipSpaces_start hbs hspace]
  split
  case h_1 heq => cases heq
  case h_2 heq => exact absurd (List.cons.inj heq).1 hc
  case h_3 => exact ⟨_, rfl⟩

theorem settles_list (hd : ∀ cs, IsText .value cs → d.Settles room cs) (h : IsText .value cs) :
    d.list.Settles (room + 1) cs := by
  have hitem := isItem_of_isText h
  cases h with
  | emptyList hbs' =>
    refine .inl ⟨[], hitem, fun bs rest hbs _ => ?_⟩
    rw [List.cons_append, list_ofText hbs, List.append_assoc]
    exact items_of_stop (nextItem_stop hbs' true rest) _
  | @list cs hcs =>
    rcases itemsSettle hd hcs true with ⟨as, has⟩ | hfault
    · refine .inl ⟨as, hitem, fun bs rest hbs _ => ?_⟩
      rw [List.cons_append, list_ofText hbs]
      exact has rest _ (by simp only [List.length_append]; omega)
    · refine .inr fun bs rest hbs _ => ?_
      rw [List.cons_append, list_ofText hbs]
      exact hfault rest _ (by simp only [List.length_append]; omega)
  | number hnumber =>
    obtain ⟨c, cs', rfl, hc⟩ := exists_cons_of_isNumber hnumber
    refine .inr (list_refuses (startsItem_of_number hc).1 ?_ cs')
    rintro rfl
    exact absurd hc (by decide)
  | _ => exact .inr (list_refuses rfl (by decide) _)

end NewsSearch.Decode
