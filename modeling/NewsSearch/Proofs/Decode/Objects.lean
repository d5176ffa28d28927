import NewsSearch.Proofs.Decode.Fields
import NewsSearch.Proofs.Decode.Settled

/-!
# Objects however they are written

An object is a list of members, with blanks anywhere between its parts and keys spelled in any way.
If the fields of a record are settled by their values, decoding the text does what the members do,
one after another.
-/

namespace NewsSearch.Decode

open Json Json.Grammar

/-- A member of an object: its key, and its value as it is written. -/
structure MemberText where
  key : String
  value : List Char
  isText : IsText .value value

/-- How the members up to the end of an object may be written, the first ones or more of them. -/
inductive Writes : Bool → List MemberText → List Char → Prop
  | nil {first : Bool} {bs : List Char} (hbs : AreSpaces bs) : Writes first [] (bs ++ ['}'])
  | cons {first : Bool} {m : MemberText} {ms : List MemberText}
      {bs key bs₁ bs₂ bs₃ cs : List Char} (hbs : AreSpaces bs) (hkey : Denotes key m.key.toList) (hbs₁ : AreSpaces bs₁)
      (hbs₂ : AreSpaces bs₂) (hbs₃ : AreSpaces bs₃) (h : Writes false ms cs) :
    Writes first (m :: ms)
      (after first
        (bs ++ '"' :: (key ++ '"' :: (bs₁ ++ ':' :: (bs₂ ++ (m.value ++ (bs₃ ++ cs)))))))

/-- The text is an object with these members, and blanks around it. -/
def IsObject (ms : List MemberText) (text : String) : Prop :=
  ∃ bs cs bs₁, AreSpaces bs ∧ Writes true ms cs ∧ AreSpaces bs₁ ∧
    text.toList = bs ++ '{' :: (cs ++ bs₁)

/-- The members up to the end of an object, without blanks. -/
def compactMembers (first : Bool) : List MemberText → List Char
  | [] => ['}']
  | m :: ms =>
    after first ('"' :: (m.key.toList.flatMap Printer.escapedChar ++
      '"' :: ':' :: (m.value ++ compactMembers false ms)))

def compactObject (ms : List MemberText) : String := String.ofList ('{' :: compactMembers true ms)

theorem writes_compactMembers (first : Bool) (ms : List MemberText) :
    Writes first ms (compactMembers first ms) := by
  induction ms generalizing first with
  | nil => exact .nil areSpaces_nil
  | cons m ms ih =>
    exact .cons areSpaces_nil (denotes_escaped m.key.toList) areSpaces_nil areSpaces_nil
      areSpaces_nil (ih false)

theorem isObject_compactObject (ms : List MemberText) : IsObject ms (compactObject ms) :=
  ⟨[], compactMembers true ms, [], areSpaces_nil, writes_compactMembers true ms, areSpaces_nil,
    by simp [compactObject]⟩

/-! ## Pieces of an object -/

theorem endsToken_writes {ms : List MemberText} {cs : List Char} (h : Writes false ms cs)
    (rest : List Char) : EndsToken (cs ++ rest) := by
  cases h with
  | nil hbs =>
    rw [List.append_assoc]
    exact endsToken_spaces_cons hbs rfl rest
  | cons => exact endsToken_cons rfl _

theorem nextKey_spaces {bs : List Char} (hbs : AreSpaces bs) (first : Bool) (cs : List Char) :
    nextKey first (bs ++ cs) = nextKey first cs := by
  unfold nextKey
  rw [skipSpaces_append hbs]

theorem nextKey_after {bs : List Char} (hbs : AreSpaces bs) (first : Bool) (cs : List Char) :
    nextKey first (after first (bs ++ '"' :: cs)) = .ok (.go cs) := by
  cases first with
  | true => exact nextKey_first hbs cs
  | false => exact nextKey_next hbs cs

/-! ## Members -/

variable {σ α β ε : Type}

theorem toOption_bind (r : Except ε α) (f : α → Except ε β) :
    (r.bind f).toOption = r.toOption.bind fun a => (f a).toOption := by
  cases r <;> rfl

/-- What a written value does under the field. -/
def Field.textEffect (f : Field σ) (room : Nat) (cs : List Char) : Effect σ :=
  ⟨f.name, (f.update.ofText room cs).toOption.map Prod.fst⟩

namespace Record

variable {fields : List (Field σ)} {room : Nat}

/-- What a written member does to a record. A key that stands for no field does nothing. -/
def textEffect? (fields : List (Field σ)) (room : Nat) (m : MemberText) : Option (Effect σ) :=
  (fields.find? (·.answersTo m.key)).map (·.textEffect room m.value)

theorem stems_of_textEffect? {m : MemberText} {e : Effect σ}
    (h : textEffect? fields room m = some e) : e.Stems fields := by
  obtain ⟨f, hf, rfl⟩ := Option.map_eq_some_iff.mp h
  refine ⟨f, List.mem_of_find?_eq_some hf, rfl, fun u hu => .inr ?_⟩
  obtain ⟨⟨u, rest⟩, hread, rfl⟩ := Option.map_eq_some_iff.mp hu
  exact ⟨room, m.value, rest, toOption_eq_some.mp hread⟩

variable {other : String → Nat → List Char → Except Problem ((σ → σ) × List Char)}
  {first : Bool} {seen : List String} {s : σ} {cs cs' : List Char}

theorem membersOfText_spaces {bs : List Char} (hbs : AreSpaces bs) (fuel : Nat) (cs : List Char) :
    membersOfText fields other room fuel first seen s (bs ++ cs) =
      membersOfText fields other room fuel first seen s cs := by
  cases fuel with
  | zero => rfl
  | succ fuel => rw [membersOfText, membersOfText, nextKey_spaces hbs]

theorem membersOfText_other {key : List Char} {k : String} (hkey : Denotes key k.toList)
    {bs : List Char} (hbs : AreSpaces bs)
    (h : nextKey first cs = .ok (.go (key ++ '"' :: (bs ++ ':' :: cs'))))
    (hfind : fields.find? (·.answersTo k) = none) (fuel : Nat) :
    membersOfText fields other room (fuel + 1) first seen s cs =
      (other k room cs').bind fun r =>
        membersOfText fields other room fuel false seen (r.1 s) r.2 := by
  simp only [membersOfText, h, bind, Except.bind, readString_denotes hkey, hfind,
    readColon_spaces hbs]

/-- The members up to the end do one after another what each does alone. -/
theorem membersOfText_toOption
    (hfields : ∀ f ∈ fields, ∀ cs, IsText .value cs → f.update.Settles room cs)
    {ms : List MemberText} (h : Writes first ms cs) (seen : List String) (s : σ) (rest : List Char) {fuel : Nat}
    (hfuel : cs.length ≤ fuel) :
    (membersOfText fields skipMember room fuel first seen s (cs ++ rest)).toOption =
      (Effect.perform seen s (ms.filterMap (textEffect? fields room))).map (·, rest) := by
  induction h generalizing seen s fuel with
  | nil hbs =>
    obtain ⟨fuel, rfl⟩ : ∃ n, fuel = n + 1 := Nat.exists_eq_add_one.mpr (by simp at hfuel; omega)
    rw [List.append_assoc, List.singleton_append, membersOfText_of_stop (nextKey_stop hbs _ rest)]
    rfl
  | @cons first m ms bs key bs₁ bs₂ bs₃ cs hbs hkey hbs₁ hbs₂ hbs₃ h ih =>
    obtain ⟨fuel, rfl, hle⟩ : ∃ n, fuel = n + 1 ∧ cs.length ≤ n := by
      refine ⟨fuel - 1, ?_, ?_⟩ <;> cases first <;> simp [after] at hfuel <;> omega
    have hends : EndsToken (bs₃ ++ (cs ++ rest)) :=
      endsToken_spaces hbs₃ (endsToken_writes h rest)
    have hnext : nextKey first (after first
        (bs ++ '"' :: (key ++ '"' :: (bs₁ ++ ':' :: (bs₂ ++ (m.value ++ (bs₃ ++ cs))))))
          ++ rest) =
        .ok (.go (key ++ '"' :: (bs₁ ++ ':' :: (bs₂ ++ (m.value ++ (bs₃ ++ (cs ++ rest))))))) := by
      rw [after_append]
      simp only [List.append_assoc, List.cons_append]
      exact nextKey_after hbs first _
    have hrest (seen : List String) (s : σ) :
        (membersOfText fields skipMember room fuel false seen s (bs₃ ++ (cs ++ rest))).toOption =
          (Effect.perform seen s (ms.filterMap (textEffect? fields room))).map (·, rest) := by
      rw [membersOfText_spaces hbs₃]
      exact ih seen s hle
    rw [List.filterMap_cons, textEffect?]
    cases hfind : fields.find? (·.answersTo m.key) with
    | none =>
      -- Nobody asks for the value, so a lenient reader passes over it at any depth.
      rw [membersOfText_other hkey hbs₁ hnext hfind, skipMember,
        skipValue_text hbs₂ m.isText hends]
      exact hrest seen s
    | some f =>
      have hsettle := hfields f (List.mem_of_find?_eq_some hfind) m.value m.isText
      rw [membersOfText_field hkey hbs₁ hnext hfind]
      simp only [Option.map_some, Effect.perform, Field.textEffect]
      split
      case isTrue => rfl
      case isFalse =>
        rw [toOption_bind, hsettle.toOption_ofText hbs₂ hends]
        cases (f.update.ofText room m.value).toOption with
        | none => rfl
        | some r => exact hrest (f.name :: seen) (r.1 s)

/-- A whole text comes to what its members do. -/
theorem decode_toOption {r : Record σ}
    (hfields : ∀ f ∈ r.fields, ∀ cs, IsText .value cs → f.update.Settles (Reader.maxOpen - 1) cs)
    {ms : List MemberText} {text : String} (h : IsObject ms text) :
    (r.decoder.decode text).toOption =
      Effect.perform [] r.blank (ms.filterMap (textEffect? r.fields (Reader.maxOpen - 1))) := by
  obtain ⟨bs, cs, bs₁, hbs, hcs, hbs₁, htext⟩ := h
  have hread : r.decoder.ofText Reader.maxOpen text.toList =
      membersOfText r.fields skipMember (Reader.maxOpen - 1) ((cs ++ bs₁).length + 1) true []
        r.blank (cs ++ bs₁) := by
    rw [htext]
    exact decoder_ofText hbs (cs ++ bs₁)
  have hfuel : cs.length ≤ (cs ++ bs₁).length + 1 := by
    rw [List.length_append]
    omega
  have hmembers := membersOfText_toOption hfields hcs [] r.blank bs₁ hfuel
  rw [← hread] at hmembers
  unfold Decoder.decode wholeText
  cases hresult : r.decoder.ofText Reader.maxOpen text.toList with
  | error e =>
    rw [hresult] at hmembers
    exact (Option.map_eq_none_iff.mp hmembers.symm).symm
  | ok read =>
    rw [hresult] at hmembers
    obtain ⟨s, hs, rfl⟩ := Option.map_eq_some_iff.mp hmembers.symm
    simp only [hs, bind, Except.bind, skipSpaces_eq_nil hbs₁]
    rfl

end Record

end NewsSearch.Decode
