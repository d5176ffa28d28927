import NewsSearch.Proofs.Json.Printed

/-!
# Decoding what was printed

A decoder reads a printed value as what it stands for, in any style, whatever follows it. Lists and
records do so if their items and their members do, so each type needs no more than the list of its
fields.
-/

namespace NewsSearch.Decode

open Json Json.Grammar Json.Printer

variable {α β σ : Type} {style : Style} {room depth : Nat}

/-! ## Reading a piece of text -/

/-- Neither a blank nor what ends a list, so that a list goes on with it. -/
def StartsItem (c : Char) : Prop := Reader.isSpace c = false ∧ c ≠ ']'

instance (c : Char) : Decidable (StartsItem c) := inferInstanceAs (Decidable (_ ∧ _))

def IsItem (cs : List Char) : Prop := ∃ c cs', cs = c :: cs' ∧ StartsItem c

/-- The decoder reads the text as `a` and stops after it. -/
structure Decoder.Reads (d : Decoder α) (room : Nat) (cs : List Char) (a : α) : Prop where
  isItem : IsItem cs
  ofText : ∀ bs rest, AreSpaces bs → EndsToken rest →
    d.ofText room (bs ++ (cs ++ rest)) = .ok (a, rest)

variable {d : Decoder α} {cs : List Char} {a : α}

theorem Decoder.Reads.map (h : d.Reads room cs a) (f : α → β) : (d.map f).Reads room cs (f a) where
  isItem := h.isItem
  ofText bs rest hbs hrest := by
    unfold Decoder.map Decoder.refine
    dsimp only
    rw [h.ofText bs rest hbs hrest]
    rfl

/-- A whole text may have blanks after the value. -/
theorem Decoder.Reads.decode (h : d.Reads Reader.maxOpen cs a) {bs : List Char} (hbs : AreSpaces bs) :
    d.decode (String.ofList (cs ++ bs)) = .ok a := by
  have hrest : EndsToken bs := by
    rw [← List.append_nil bs]
    exact endsToken_spaces hbs endsToken_nil
  have hread : d.ofText Reader.maxOpen (cs ++ bs) = .ok (a, bs) := h.ofText [] bs areSpaces_nil hrest
  unfold Decoder.decode wholeText
  simp only [String.toList_ofList, hread, bind, Except.bind, skipSpaces_eq_nil hbs]
  rfl

/-- A value that is read in every style is read from all its texts, also from a line of its own. -/
theorem Decoder.decode_printed {v : Value}
    (h : ∀ style : Style, style.Spaces → d.Reads Reader.maxOpen (Printer.text style 0 v) a) :
    d.decode v.compact = .ok a ∧ d.decode v.pretty = .ok a ∧ d.decode (v.pretty ++ "\n") = .ok a := by
  have hbreak : AreSpaces ['\n'] := by simp [AreSpaces, Reader.isSpace]
  have hcompact := (h compactStyle spaces_compactStyle).decode areSpaces_nil
  have hpretty := (h prettyStyle spaces_prettyStyle).decode areSpaces_nil
  have hline := (h prettyStyle spaces_prettyStyle).decode hbreak
  rw [List.append_nil] at hcompact hpretty
  rw [String.ofList_append] at hline
  exact ⟨hcompact, hpretty, hline⟩

/-! ## Scalars -/

theorem skipSpaces_start {bs : List Char} (hbs : AreSpaces bs) {c : Char}
    (hc : Reader.isSpace c = false) (cs : List Char) : Reader.skipSpaces (bs ++ c :: cs) = c :: cs := by
  rw [skipSpaces_append hbs, skipSpaces_cons hc]

theorem stringText_append (s : String) (rest : List Char) :
    stringText s ++ rest = '"' :: (s.toList.flatMap escapedChar ++ '"' :: rest) := by
  simp [stringText]

theorem reads_string (s : String) : Decoder.string.Reads room (stringText s) s where
  isItem := ⟨_, _, rfl, by decide⟩
  ofText bs rest hbs _ := by
    rw [stringText_append]
    simp only [Decoder.string, skipSpaces_start hbs (show Reader.isSpace '"' = false from rfl)]
    exact readString_stringText s rest

theorem nullable_ofText {bs : List Char} (hbs : AreSpaces bs) {c : Char}
    (hspace : Reader.isSpace c = false) (hne : c ≠ 'n') (cs : List Char) :
    d.nullable.ofText room (bs ++ c :: cs) =
      (d.ofText room (c :: cs)).map fun r => (some r.1, r.2) := by
  simp only [Decoder.nullable, skipSpaces_start hbs hspace]
  split
  case h_1 heq => exact absurd (List.cons.inj heq).1 hne
  case h_2 => cases d.ofText room (c :: cs) <;> rfl

theorem reads_null : d.nullable.Reads room "null".toList none where
  isItem := ⟨_, _, rfl, by decide⟩
  ofText bs rest hbs _ := by
    have hskip : Reader.skipSpaces (bs ++ ("null".toList ++ rest)) =
        'n' :: ("ull".toList ++ rest) :=
      skipSpaces_start hbs (show Reader.isSpace 'n' = false from rfl) _
    have hnull : readValue room ('n' :: ("ull".toList ++ rest)) = .ok (.null, rest) :=
      readValue_null room rest
    simp only [Decoder.nullable, hskip, hnull]
    rfl

theorem Decoder.Reads.nullable {c : Char} (h : d.Reads room (c :: cs) a) (hne : c ≠ 'n') :
    d.nullable.Reads room (c :: cs) (some a) where
  isItem := h.isItem
  ofText bs rest hbs hrest := by
    obtain ⟨_, _, ⟨⟩, hstart⟩ := h.isItem
    have hread := h.ofText [] rest areSpaces_nil hrest
    rw [List.nil_append, List.cons_append] at hread
    rw [List.cons_append, nullable_ofText hbs hstart.1 hne, hread]
    rfl

theorem reads_text (o : Option String) :
    (Decoder.string.nullable).Reads room
      (Printer.text style depth (Value.ofOption .string o)) o := by
  cases o with
  | none => exact reads_null
  | some s => exact (reads_string s).nullable (by decide)

theorem numberText_nat (n : Nat) : numberText (.integer n) = Text.decimal n := by
  simp [numberText]

theorem startsItem_of_isDigit {c : Char} (h : c.isDigit) : StartsItem c := by
  constructor
  · by_contra hspace
    simp only [Reader.isSpace, Bool.not_eq_false, Bool.or_eq_true, beq_iff_eq] at hspace
    rcases hspace with ((rfl | rfl) | rfl) | rfl <;> cases h
  · rintro rfl
    cases h

theorem toUInt32_toNat (n : UInt32) : Decoder.toUInt32 (.integer n.toNat) = .ok n := by
  have hn : n.toNat < 4294967296 := n.toNat_lt
  simp [Decoder.toUInt32, UInt32.size, hn]

theorem toNat_lt_significandLimit (n : UInt32) : n.toNat < NumberReader.significandLimit := by
  have hn : n.toNat < 4294967296 := n.toNat_lt
  have hlimit : NumberReader.significandLimit = 18446744073709551616 := rfl
  omega

-- The number is a variable here, or the kernel compares it with the limit digit by digit.
theorem uint32_ofText {bs : List Char} (hbs : AreSpaces bs) {c : Char} (hc : c.isDigit)
    {cs rest : List Char} {number : Number} {n : UInt32}
    (hread : readValue room (c :: cs) = .ok (.number number, rest))
    (hnumber : Decoder.toUInt32 number = .ok n) :
    Decoder.uint32.ofText room (bs ++ c :: cs) = .ok (n, rest) := by
  simp only [Decoder.uint32, skipSpaces_start hbs (startsItem_of_isDigit hc).1, hc, or_true, if_true,
    hread, bind, Except.bind, hnumber]
  rfl

theorem reads_uint32 (n : UInt32) :
    Decoder.uint32.Reads room (Printer.text style depth (.number (.integer n.toNat))) n where
  isItem := by
    obtain ⟨c, cs, hcs, hc⟩ := Text.exists_decimal_eq_cons n.toNat
    exact ⟨c, cs, by rw [Printer.text, numberText_nat, hcs], startsItem_of_isDigit hc⟩
  ofText bs rest hbs hrest := by
    have hread := readValue_decimal room (toNat_lt_significandLimit n) hrest
    obtain ⟨c, cs, hcs, hc⟩ := Text.exists_decimal_eq_cons n.toNat
    rw [Printer.text, numberText_nat, hcs, List.cons_append]
    rw [hcs, List.cons_append] at hread
    exact uint32_ofText hbs hc hread (toUInt32_toNat n)

/-! ## Lists -/

theorem endsToken_itemsText (hs : style.Spaces) (vs : List Value) (rest : List Char) :
    EndsToken (itemsText style depth vs ++ rest) := by
  cases vs with
  | nil =>
    rw [itemsText, List.append_assoc]
    exact endsToken_spaces (hs.lineBreak depth) (endsToken_cons rfl _)
  | cons v vs => exact endsToken_cons rfl _

theorem length_itemsText (vs : List Value) : vs.length < (itemsText style depth vs).length := by
  induction vs with
  | nil => simp [itemsText]
  | cons v vs ih => simp only [itemsText, List.length_cons, List.length_append]; omega

theorem nextItem_stop {bs : List Char} (hbs : AreSpaces bs) (first : Bool) (rest : List Char) :
    nextItem first (bs ++ ']' :: rest) = .ok (.stop rest) := by
  simp [nextItem, skipSpaces_start hbs (show Reader.isSpace ']' = false from rfl)]

theorem nextItem_first {bs : List Char} (hbs : AreSpaces bs) (hcs : IsItem cs) (rest : List Char) :
    nextItem true (bs ++ (cs ++ rest)) = .ok (.go (cs ++ rest)) := by
  obtain ⟨c, cs, rfl, hc⟩ := hcs
  simp [nextItem, skipSpaces_start hbs hc.1, hc.2]

theorem nextItem_next {bs : List Char} (hbs : AreSpaces bs) (hcs : IsItem cs) (rest : List Char) :
    nextItem false (',' :: (bs ++ (cs ++ rest))) = .ok (.go (cs ++ rest)) := by
  obtain ⟨c, cs, rfl, hc⟩ := hcs
  simp [nextItem, skipSpaces_cons (show Reader.isSpace ',' = false from rfl),
    skipSpaces_start hbs hc.1, hc.2]

theorem items_of_stop {first : Bool} {rest : List Char} (h : nextItem first cs = .ok (.stop rest))
    (fuel : Nat) : d.items room (fuel + 1) first cs = .ok ([], rest) := by
  simp only [Decoder.items, h, bind, Except.bind]
  rfl

theorem items_of_go {first : Bool} {cs' rest : List Char} (h : nextItem first cs = .ok (.go cs'))
    (hread : d.ofText room cs' = .ok (a, rest)) (fuel : Nat) :
    d.items room (fuel + 1) first cs =
      (d.items room fuel false rest).map fun r => (a :: r.1, r.2) := by
  simp only [Decoder.items, h, hread, bind, Except.bind]
  rfl

theorem list_ofText {bs : List Char} (hbs : AreSpaces bs) (cs : List Char) :
    d.list.ofText (room + 1) (bs ++ '[' :: cs) = d.items room (cs.length + 1) true cs := by
  simp only [Decoder.list, skipSpaces_start hbs (show Reader.isSpace '[' = false from rfl)]
  rfl

/-- The rest of a printed list is read item by item. -/
theorem items_itemsText (hs : style.Spaces) {encode : α → Value} {as : List α}
    (h : ∀ a ∈ as, d.Reads room (Printer.text style (depth + 1) (encode a)) a) (rest : List Char)
    {fuel : Nat} (hfuel : as.length < fuel) :
    d.items room fuel false (itemsText style depth (as.map encode) ++ rest) = .ok (as, rest) := by
  induction as generalizing fuel with
  | nil =>
    obtain ⟨fuel, rfl⟩ := Nat.exists_eq_add_one.mpr hfuel
    rw [List.map_nil, itemsText, List.append_assoc]
    exact items_of_stop (nextItem_stop (hs.lineBreak depth) false rest) _
  | cons a as ih =>
    obtain ⟨fuel, rfl⟩ := Nat.exists_eq_add_one.mpr (Nat.zero_lt_of_lt hfuel)
    have ha := h a List.mem_cons_self
    have hread := ha.ofText [] (itemsText style depth (as.map encode) ++ rest) areSpaces_nil
      (endsToken_itemsText hs _ _)
    have hnext := nextItem_next (hs.lineBreak (depth + 1)) ha.isItem
      (itemsText style depth (as.map encode) ++ rest)
    have hrest := ih (fun a ha => h a (List.mem_cons_of_mem _ ha)) (Nat.lt_of_succ_lt_succ hfuel)
    have htext : itemsText style depth ((a :: as).map encode) ++ rest =
        ',' :: (style.lineBreak (depth + 1) ++ (Printer.text style (depth + 1) (encode a) ++
          (itemsText style depth (as.map encode) ++ rest))) := by
      simp [itemsText]
    rw [htext, items_of_go hnext hread, hrest]
    rfl

theorem reads_list (hs : style.Spaces) {encode : α → Value} {as : List α}
    (h : ∀ a ∈ as, d.Reads room (Printer.text style (depth + 1) (encode a)) a) :
    d.list.Reads (room + 1) (Printer.text style depth (.array (as.map encode))) as where
  isItem := by
    cases as with
    | nil => exact ⟨_, _, rfl, by decide⟩
    | cons a as => exact ⟨_, _, rfl, by decide⟩
  ofText bs rest hbs hrest := by
    cases as with
    | nil =>
      have htext : Printer.text style depth (.array (([] : List α).map encode)) ++ rest =
          '[' :: ([] ++ ']' :: rest) := rfl
      rw [htext, list_ofText hbs]
      exact items_of_stop (nextItem_stop areSpaces_nil true rest) _
    | cons a as =>
      have ha := h a List.mem_cons_self
      have hread := ha.ofText [] (itemsText style depth (as.map encode) ++ rest) areSpaces_nil
        (endsToken_itemsText hs _ _)
      have hnext := nextItem_first (hs.lineBreak (depth + 1)) ha.isItem
        (itemsText style depth (as.map encode) ++ rest)
      have htext : Printer.text style depth (.array ((a :: as).map encode)) ++ rest =
          '[' :: (style.lineBreak (depth + 1) ++ (Printer.text style (depth + 1) (encode a) ++
            (itemsText style depth (as.map encode) ++ rest))) := by
        simp [Printer.text]
      have hlength := @length_itemsText style depth (as.map encode)
      rw [htext, list_ofText hbs, items_of_go hnext hread,
        items_itemsText hs (fun a ha => h a (List.mem_cons_of_mem _ ha)) rest]
      · rfl
      · simp only [List.length_append, List.length_map] at hlength ⊢
        omega

/-! ## Records -/

theorem endsToken_membersText (hs : style.Spaces) (ms : Members) (rest : List Char) :
    EndsToken (membersText style depth ms ++ rest) := by
  cases ms with
  | nil =>
    rw [membersText, List.append_assoc]
    exact endsToken_spaces (hs.lineBreak depth) (endsToken_cons rfl _)
  | cons m ms => exact endsToken_cons rfl _

theorem length_membersText (ms : Members) : ms.length < (membersText style depth ms).length := by
  induction ms with
  | nil => simp [membersText]
  | cons m ms ih => simp only [membersText, List.length_cons, List.length_append]; omega

theorem nextKey_stop {bs : List Char} (hbs : AreSpaces bs) (first : Bool) (rest : List Char) :
    nextKey first (bs ++ '}' :: rest) = .ok (.stop rest) := by
  simp [nextKey, skipSpaces_start hbs (show Reader.isSpace '}' = false from rfl)]

theorem nextKey_first {bs : List Char} (hbs : AreSpaces bs) (cs : List Char) :
    nextKey true (bs ++ '"' :: cs) = .ok (.go cs) := by
  simp [nextKey, skipSpaces_start hbs (show Reader.isSpace '"' = false from rfl)]

theorem nextKey_next {bs : List Char} (hbs : AreSpaces bs) (cs : List Char) :
    nextKey false (',' :: (bs ++ '"' :: cs)) = .ok (.go cs) := by
  simp [nextKey, skipSpaces_cons (show Reader.isSpace ',' = false from rfl),
    skipSpaces_start hbs (show Reader.isSpace '"' = false from rfl)]

theorem readColon_spaces {bs : List Char} (hbs : AreSpaces bs) (cs : List Char) :
    readColon (bs ++ ':' :: cs) = .ok cs := by
  simp only [readColon, skipSpaces_start hbs (show Reader.isSpace ':' = false from rfl)]

namespace Record

/-- Reading the members one after another takes the record from `s` to `s'`. Each key stands for a
field that is not among those seen, and its field reads the value. -/
inductive MembersRead (fields : List (Field σ)) (style : Style) (room depth : Nat) :
    (seen : List String) → σ → Members → σ → Prop
  | nil (seen : List String) (s : σ) : MembersRead fields style room depth seen s [] s
  | cons {seen : List String} {s s' : σ} {key : String} {v : Value} {ms : Members} {f : Field σ}
      {set : σ → σ} (hfind : fields.find? (·.answersTo key) = some f) (hseen : f.name ∉ seen)
      (hread : f.update.Reads room (Printer.text style depth v) set)
      (rest : MembersRead fields style room depth (f.name :: seen) (set s) ms s') :
      MembersRead fields style room depth seen s ((key, v) :: ms) s'

variable {fields : List (Field σ)}
  {other : String → Nat → List Char → Except Problem ((σ → σ) × List Char)} {seen : List String}
  {s s' : σ}

theorem membersOfText_of_stop {first : Bool} {rest : List Char}
    (h : nextKey first cs = .ok (.stop rest)) (fuel : Nat) :
    membersOfText fields other room (fuel + 1) first seen s cs = .ok (s, rest) := by
  simp only [membersOfText, h, bind, Except.bind]
  rfl

theorem membersOfText_field {cs' : List Char} {first : Bool} {key : List Char} {k : String} (hkey : Denotes key k.toList)
    {bs : List Char} (hbs : AreSpaces bs)
    (h : nextKey first cs = .ok (.go (key ++ '"' :: (bs ++ ':' :: cs')))) {f : Field σ}
    (hfind : fields.find? (·.answersTo k) = some f) (fuel : Nat) :
    membersOfText fields other room (fuel + 1) first seen s cs =
      if f.name ∈ seen then .error (.duplicateField f.name)
      else (f.update.ofText room cs').bind fun r =>
        membersOfText fields other room fuel false (f.name :: seen) (r.1 s) r.2 := by
  simp only [membersOfText, h, bind, Except.bind, readString_denotes hkey, hfind,
    readColon_spaces hbs, List.contains_iff_mem]

/-- The text of a member after the opening quote of its key. -/
def memberTail (style : Style) (depth : Nat) (key : String) (v : Value) : List Char :=
  key.toList.flatMap escapedChar ++ '"' :: (style.afterKey ++ Printer.text style depth v)

theorem membersOfText_of_go (hs : style.Spaces) {first : Bool} {key : String} {v : Value}
    {f : Field σ} {set : σ → σ} {rest : List Char}
    (h : nextKey first cs = .ok (.go (memberTail style depth key v ++ rest)))
    (hfind : fields.find? (·.answersTo key) = some f) (hseen : f.name ∉ seen)
    (hread : f.update.Reads room (Printer.text style depth v) set) (hrest : EndsToken rest)
    (fuel : Nat) :
    membersOfText fields other room (fuel + 1) first seen s cs =
      membersOfText fields other room fuel false (f.name :: seen) (set s) rest := by
  obtain ⟨bs, hafter, hbs⟩ := hs.afterKey
  have htail : memberTail style depth key v ++ rest = key.toList.flatMap escapedChar ++
      '"' :: ([] ++ ':' :: (bs ++ (Printer.text style depth v ++ rest))) := by
    simp [memberTail, hafter]
  rw [htail] at h
  rw [membersOfText_field (denotes_escaped key.toList) areSpaces_nil h hfind, if_neg hseen,
    hread.ofText bs rest hbs hrest]
  rfl

theorem membersText_cons (key : String) (v : Value) (ms : Members) (rest : List Char) :
    membersText style depth ((key, v) :: ms) ++ rest =
      ',' :: (style.lineBreak (depth + 1) ++
        '"' :: (memberTail style (depth + 1) key v ++ (membersText style depth ms ++ rest))) := by
  simp [membersText, memberTail, stringText]

theorem text_object_cons (key : String) (v : Value) (ms : Members) (rest : List Char) :
    Printer.text style depth (.object ((key, v) :: ms)) ++ rest =
      '{' :: (style.lineBreak (depth + 1) ++
        '"' :: (memberTail style (depth + 1) key v ++ (membersText style depth ms ++ rest))) := by
  simp [Printer.text, memberTail, stringText]

/-- The rest of a printed object is read member by member. -/
theorem membersOfText_membersText (hs : style.Spaces) {ms : Members}
    (h : MembersRead fields style room (depth + 1) seen s ms s') (rest : List Char) {fuel : Nat}
    (hfuel : ms.length < fuel) :
    membersOfText fields other room fuel false seen s (membersText style depth ms ++ rest) =
      .ok (s', rest) := by
  induction h generalizing fuel with
  | nil seen s =>
    obtain ⟨fuel, rfl⟩ := Nat.exists_eq_add_one.mpr hfuel
    rw [membersText, List.append_assoc]
    exact membersOfText_of_stop (nextKey_stop (hs.lineBreak depth) false rest) fuel
  | cons hfind hseen hread _ ih =>
    obtain ⟨fuel, rfl⟩ := Nat.exists_eq_add_one.mpr (Nat.zero_lt_of_lt hfuel)
    rw [membersText_cons, membersOfText_of_go hs (nextKey_next (hs.lineBreak (depth + 1)) _) hfind hseen
      hread (endsToken_membersText hs _ _)]
    exact ih (Nat.lt_of_succ_lt_succ hfuel)

variable {r : Record σ}

theorem decoder_ofText {bs : List Char} (hbs : AreSpaces bs) (cs : List Char) :
    r.decoder.ofText (room + 1) (bs ++ '{' :: cs) =
      membersOfText r.fields skipMember room (cs.length + 1) true [] r.blank cs := by
  simp only [decoder, skipSpaces_start hbs (show Reader.isSpace '{' = false from rfl)]
  rfl

/-- A record reads a printed object of which it reads the members. -/
theorem reads_object (hs : style.Spaces) {ms : Members}
    (h : MembersRead r.fields style room (depth + 1) [] r.blank ms s') :
    r.decoder.Reads (room + 1) (Printer.text style depth (.object ms)) s' where
  isItem := by
    cases ms with
    | nil => exact ⟨_, _, rfl, by decide⟩
    | cons m ms => exact ⟨_, _, rfl, by decide⟩
  ofText bs rest hbs _ := by
    cases h with
    | nil =>
      have htext : Printer.text style depth (.object []) ++ rest = '{' :: ([] ++ '}' :: rest) := rfl
      rw [htext, decoder_ofText hbs]
      exact membersOfText_of_stop (nextKey_stop areSpaces_nil true rest) _
    | @cons _ _ _ key v ms _ _ hfind hseen hread hms =>
      have hlength := @length_membersText style depth ms
      rw [text_object_cons, decoder_ofText hbs,
        membersOfText_of_go hs (nextKey_first (hs.lineBreak (depth + 1)) _) hfind hseen hread
          (endsToken_membersText hs _ _),
        membersOfText_membersText hs hms]
      simp only [List.length_append, List.length_cons]
      omega

/-! ## The fields in order -/

theorem reads_of (name : String) (aliases : List String) {set : α → σ → σ} (h : d.Reads room cs a) :
    (Field.of name aliases d set).update.Reads room cs (set a) :=
  h.map set

/-- No field answers to the name of a later one. -/
def Separate (fields : List (Field σ)) : Prop :=
  fields.Pairwise fun f g => f.answersTo g.name = false

theorem answersTo_name (f : Field σ) : f.answersTo f.name = true := by
  simp [Field.answersTo]

theorem name_ne_of_answersTo {f g : Field σ} (h : f.answersTo g.name = false) : g.name ≠ f.name := by
  intro heq
  rw [heq, answersTo_name] at h
  cases h

theorem find?_name (h : Separate fields) {f : Field σ} (hf : f ∈ fields) :
    fields.find? (·.answersTo f.name) = some f := by
  induction fields with
  | nil => cases hf
  | cons g fields ih =>
    obtain ⟨hg, hfields⟩ := List.pairwise_cons.mp h
    rcases List.mem_cons.mp hf with rfl | hf
    · exact List.find?_cons_of_pos (answersTo_name f)
    · rw [List.find?_cons_of_neg (by simp [hg f hf])]
      exact ih hfields hf

/-- Reading a member for each field, in the order of the fields, takes the record from `s` to
`s'`. -/
inductive FieldsRead (style : Style) (room depth : Nat) : List (Field σ) → σ → Members → σ → Prop
  | nil (s : σ) : FieldsRead style room depth [] s [] s
  | cons {f : Field σ} {fs : List (Field σ)} {s s' : σ} {v : Value} {ms : Members} {set : σ → σ}
      (hread : f.update.Reads room (Printer.text style depth v) set)
      (rest : FieldsRead style room depth fs (set s) ms s') :
      FieldsRead style room depth (f :: fs) s ((f.name, v) :: ms) s'

theorem membersRead_of_fieldsRead {todo : List (Field σ)} {ms : Members}
    (h : FieldsRead style room depth todo s ms s')
    (hfind : ∀ f ∈ todo, fields.find? (·.answersTo f.name) = some f) (hsep : Separate todo)
    (hseen : ∀ f ∈ todo, f.name ∉ seen) : MembersRead fields style room depth seen s ms s' := by
  induction h generalizing seen with
  | nil s => exact .nil seen s
  | @cons f todo _ _ _ _ _ hread _ ih =>
    obtain ⟨hf, htodo⟩ := List.pairwise_cons.mp hsep
    refine .cons (hfind f List.mem_cons_self) (hseen f List.mem_cons_self) hread
      (ih (fun g hg => hfind g (List.mem_cons_of_mem f hg)) htodo fun g hg hmem => ?_)
    rcases List.mem_cons.mp hmem with heq | hmem
    · exact name_ne_of_answersTo (hf g hg) heq
    · exact hseen g (List.mem_cons_of_mem f hg) hmem

/-- A record reads a printed object that has a member for each field in order. -/
theorem reads_fields (hs : style.Spaces) (hsep : Separate r.fields) {ms : Members}
    (h : FieldsRead style room (depth + 1) r.fields r.blank ms s') :
    r.decoder.Reads (room + 1) (Printer.text style depth (.object ms)) s' :=
  reads_object hs (membersRead_of_fieldsRead h (fun _ => find?_name hsep) hsep fun _ _ => by simp)

end Record

end NewsSearch.Decode
