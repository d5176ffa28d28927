import NewsSearch.Client.Config
import NewsSearch.Proofs.Text.Blank

/-!
# Which environments are accepted

What each variable may say and what it then comes to, from the variable alone. A configuration is
accepted just if its base URL and its timeout are, and the base URL is looked at first.
-/

namespace NewsSearch.Config

open Text (TrimsTo IsTrimmed)

variable {α : Type}

/-! ## What a variable says -/

/-- The variable is missing, or blank. -/
def IsUnset (value : Option String) : Prop := ∀ text ∈ value, Text.allBlank text

/-- A variable that is not set leaves the default. -/
inductive Says (unset : α) (reads : String → α → Prop) (value : Option String) : α → Prop
  | unset (h : IsUnset value) : Says unset reads value unset
  | given {text : String} {a : α} (h : value = some text) (hblank : Text.allBlank text = false)
      (hreads : reads text a) : Says unset reads value a

def IsWeb (url : String) : Prop := ∃ rest, url = "http://" ++ rest ∨ url = "https://" ++ rest

/-- Digits that stand for the number exactly, after a plus sign or none. -/
def IsWhole (text : String) (n : Nat) : Prop :=
  ∃ sign digits : String, text = sign ++ digits ∧ (sign = "" ∨ sign = "+") ∧
    Text.isDigits digits.toList ∧ Text.digitsValue digits.toList = n

def ReadsBaseUrl (text url : String) : Prop := TrimsTo text url ∧ IsWeb url

def ReadsTimeout (text : String) (n : Nat) : Prop :=
  ∃ core, TrimsTo text core ∧ IsWhole core n ∧ 1 ≤ n ∧ n < UInt64.size

def SaysBaseUrl : Option String → String → Prop := Says default.baseUrl ReadsBaseUrl

def SaysTimeout : Option String → Nat → Prop := Says default.timeoutSeconds ReadsTimeout

/-- A user agent keeps the blanks around it. -/
def SaysUserAgent : Option String → String → Prop := Says default.userAgent Eq

/-- Which variable is to blame for an environment, and what it says. -/
inductive Refuses (lookup : String → Option String) : ConfigError → Prop
  | baseUrl {text : String} (h : lookup baseUrlVariable = some text)
      (hnone : ¬ ∃ url, SaysBaseUrl (lookup baseUrlVariable) url) :
      Refuses lookup (.baseUrl (Text.trim text))
  | timeout {text : String} (hurl : ∃ url, SaysBaseUrl (lookup baseUrlVariable) url)
      (h : lookup timeoutVariable = some text)
      (hnone : ¬ ∃ n, SaysTimeout (lookup timeoutVariable) n) : Refuses lookup (.timeout text)

/-! ## Reading one variable -/

variable {lookup : String → Option String} {name text url : String} {n : Nat}

theorem given_eq_some :
    given lookup name = some text ↔ lookup name = some text ∧ Text.allBlank text = false := by
  simp [given, Option.filter_eq_some_iff]

theorem given_eq_none : given lookup name = none ↔ IsUnset (lookup name) := by
  simp [given, IsUnset, Option.filter_eq_none_iff]

theorem toList_prefix_iff {start text : String} :
    start.toList <+: text.toList ↔ ∃ rest, text = start ++ rest := by
  constructor
  · rintro ⟨rest, h⟩
    refine ⟨String.ofList rest, ?_⟩
    apply String.toList_inj.mp
    rw [String.toList_append, String.toList_ofList, h]
  · rintro ⟨rest, rfl⟩
    exact ⟨rest.toList, String.toList_append.symm⟩

theorem isWebUrl_iff : isWebUrl url ↔ IsWeb url := by
  unfold isWebUrl IsWeb
  rw [Bool.or_eq_true, List.isPrefixOf_iff_prefix, List.isPrefixOf_iff_prefix, toList_prefix_iff,
    toList_prefix_iff, exists_or]

theorem readBaseUrl_eq_ok (h : Text.allBlank text = false) :
    readBaseUrl text = .ok url ↔ ReadsBaseUrl text url := by
  unfold readBaseUrl ReadsBaseUrl
  dsimp only
  rw [← isWebUrl_iff, Text.trimsTo_iff]
  split
  case isTrue hweb =>
    constructor
    · rintro ⟨⟩
      exact ⟨⟨h, rfl⟩, hweb⟩
    · rintro ⟨⟨-, rfl⟩, -⟩
      rfl
  case isFalse hweb =>
    refine iff_of_false nofun ?_
    rintro ⟨⟨-, rfl⟩, hurl⟩
    exact hweb hurl

theorem readBaseUrl_eq_error {e : ConfigError} (h : readBaseUrl text = .error e) :
    e = .baseUrl (Text.trim text) := by
  unfold readBaseUrl at h
  dsimp only at h
  split at h <;> cases h
  rfl

/-- What follows the plus sign, if there is one. -/
def dropPlus : List Char → List Char
  | '+' :: cs => cs
  | cs => cs

theorem wholeNumber?_eq (text : String) : wholeNumber? text =
    if Text.isDigits (dropPlus text.toList) ∧
        Text.digitsValue (dropPlus text.toList) < UInt64.size then
      some (Text.digitsValue (dropPlus text.toList))
    else none := rfl

theorem dropPlus_of_isDigits {cs : List Char} (h : Text.isDigits cs) : dropPlus cs = cs := by
  unfold dropPlus
  split
  case h_1 cs => simp [Text.isDigits] at h
  case h_2 => rfl

theorem exists_sign (text : String) :
    ∃ sign, (sign = "" ∨ sign = "+") ∧ text = sign ++ String.ofList (dropPlus text.toList) := by
  unfold dropPlus
  split
  case h_1 cs heq =>
    refine ⟨"+", .inr rfl, ?_⟩
    apply String.toList_inj.mp
    simp [heq]
  case h_2 => exact ⟨"", .inl rfl, by simp⟩

theorem isWhole_iff : IsWhole text n ↔
    Text.isDigits (dropPlus text.toList) ∧ Text.digitsValue (dropPlus text.toList) = n := by
  constructor
  · rintro ⟨sign, digits, rfl, hsign, hdigits, hvalue⟩
    have hdrop : dropPlus (sign ++ digits).toList = digits.toList := by
      rcases hsign with rfl | rfl
      · rw [String.empty_append]
        exact dropPlus_of_isDigits hdigits
      · rw [String.toList_append]
        rfl
    rw [hdrop]
    exact ⟨hdigits, hvalue⟩
  · rintro ⟨hdigits, hvalue⟩
    obtain ⟨sign, hsign, htext⟩ := exists_sign text
    refine ⟨sign, _, htext, hsign, ?_, ?_⟩
    · rwa [String.toList_ofList]
    · rwa [String.toList_ofList]

theorem wholeNumber?_eq_some : wholeNumber? text = some n ↔ IsWhole text n ∧ n < UInt64.size := by
  rw [wholeNumber?_eq, isWhole_iff]
  split
  case isTrue h =>
    rw [Option.some.injEq]
    constructor
    · rintro rfl
      exact ⟨⟨h.1, rfl⟩, h.2⟩
    · rintro ⟨⟨-, hvalue⟩, -⟩
      exact hvalue
  case isFalse h =>
    refine iff_of_false nofun ?_
    rintro ⟨⟨hdigits, rfl⟩, hfits⟩
    exact h ⟨hdigits, hfits⟩

theorem readTimeout_eq_ok (h : Text.allBlank text = false) :
    readTimeout text = .ok n ↔ ReadsTimeout text n := by
  have hreads : ReadsTimeout text n ↔ 1 ≤ n ∧ wholeNumber? (Text.trim text) = some n := by
    rw [wholeNumber?_eq_some]
    constructor
    · rintro ⟨core, htrim, hwhole, hpos, hfits⟩
      obtain ⟨-, rfl⟩ := Text.trimsTo_iff.mp htrim
      exact ⟨hpos, hwhole, hfits⟩
    · rintro ⟨hpos, hwhole, hfits⟩
      exact ⟨_, Text.trimsTo_trim h, hwhole, hpos, hfits⟩
  rw [hreads]
  unfold readTimeout
  split
  case h_1 m hm =>
    rw [hm]
    constructor
    · rintro ⟨⟩
      exact ⟨Nat.succ_pos m, rfl⟩
    · rintro ⟨-, ⟨⟩⟩
      rfl
  case h_2 hnone =>
    refine iff_of_false nofun ?_
    rintro ⟨hpos, hn⟩
    obtain ⟨m, rfl⟩ := Nat.exists_eq_add_of_le' hpos
    exact hnone m hn

theorem readTimeout_eq_error {e : ConfigError} (h : readTimeout text = .error e) :
    e = .timeout text := by
  unfold readTimeout at h
  split at h <;> cases h
  rfl

/-! ## The three variables -/

/-- Reads a variable if it is set. -/
def readSet (unset : α) (read : String → Except ConfigError α) (value : Option String) :
    Except ConfigError α :=
  match value with
  | none => .ok unset
  | some text => read text

theorem ofLookup_eq (lookup : String → Option String) : ofLookup lookup =
    (readSet default.baseUrl readBaseUrl (given lookup baseUrlVariable)).bind fun baseUrl =>
    (readSet default.timeoutSeconds readTimeout (given lookup timeoutVariable)).bind fun seconds =>
    (readSet default.userAgent .ok (given lookup userAgentVariable)).bind fun userAgent =>
      .ok ⟨baseUrl, seconds, userAgent⟩ := by
  unfold ofLookup readSet
  cases given lookup baseUrlVariable <;> cases given lookup timeoutVariable <;>
    cases given lookup userAgentVariable <;>
    dsimp only [bind, pure, Except.pure, Except.bind, Option.getD]

theorem readSet_eq_ok {unset a : α} {read : String → Except ConfigError α}
    {reads : String → α → Prop}
    (hread : ∀ text, Text.allBlank text = false → (read text = .ok a ↔ reads text a)) :
    readSet unset read (given lookup name) = .ok a ↔ Says unset reads (lookup name) a := by
  cases hgiven : given lookup name with
  | none =>
    have hunset := given_eq_none.mp hgiven
    constructor
    · rintro ⟨⟩
      exact .unset hunset
    · rintro (_ | ⟨h, hblank, -⟩)
      · rfl
      · rw [hunset _ h] at hblank
        cases hblank
  | some text =>
    obtain ⟨htext, hblank⟩ := given_eq_some.mp hgiven
    change read text = .ok a ↔ _
    rw [hread text hblank]
    constructor
    · exact .given htext hblank
    · rintro (hunset | ⟨h, -, hreads⟩)
      · rw [hunset _ htext] at hblank
        cases hblank
      · cases htext.symm.trans h
        exact hreads

theorem readSet_eq_error {unset : α} {read : String → Except ConfigError α} {e : ConfigError}
    (h : readSet unset read (given lookup name) = .error e) :
    ∃ text, lookup name = some text ∧ read text = .error e := by
  unfold readSet at h
  split at h
  case h_1 => cases h
  case h_2 text hgiven => exact ⟨text, (given_eq_some.mp hgiven).1, h⟩

/-! ## Configurations -/

theorem readSet_baseUrl :
    readSet default.baseUrl readBaseUrl (given lookup baseUrlVariable) = .ok url ↔
      SaysBaseUrl (lookup baseUrlVariable) url :=
  readSet_eq_ok fun _ => readBaseUrl_eq_ok

theorem readSet_timeout :
    readSet default.timeoutSeconds readTimeout (given lookup timeoutVariable) = .ok n ↔
      SaysTimeout (lookup timeoutVariable) n :=
  readSet_eq_ok fun _ => readTimeout_eq_ok

theorem readSet_userAgent {agent : String} :
    readSet default.userAgent .ok (given lookup userAgentVariable) = .ok agent ↔
      SaysUserAgent (lookup userAgentVariable) agent :=
  readSet_eq_ok fun text _ => by rw [Except.ok.injEq]

theorem exists_saysUserAgent (value : Option String) : ∃ agent, SaysUserAgent value agent := by
  cases value with
  | none => exact ⟨_, .unset nofun⟩
  | some text =>
    cases hblank : Text.allBlank text with
    | false => exact ⟨text, .given rfl hblank rfl⟩
    | true =>
      have hunset : IsUnset (some text) := by
        rintro _ ⟨⟩
        exact hblank
      exact ⟨_, .unset hunset⟩

theorem bind_eq_ok {β ε : Type} {x : Except ε α} {f : α → Except ε β} {b : β} :
    x.bind f = .ok b ↔ ∃ a, x = .ok a ∧ f a = .ok b := by
  cases x with
  | error e => exact iff_of_false nofun (by rintro ⟨_, ⟨⟩, -⟩)
  | ok a =>
    constructor
    · intro h
      exact ⟨a, rfl, h⟩
    · rintro ⟨_, ⟨⟩, h⟩
      exact h

theorem ofLookup_eq_ok {c : Config} : ofLookup lookup = .ok c ↔
    SaysBaseUrl (lookup baseUrlVariable) c.baseUrl ∧
    SaysTimeout (lookup timeoutVariable) c.timeoutSeconds ∧
    SaysUserAgent (lookup userAgentVariable) c.userAgent := by
  simp only [ofLookup_eq, bind_eq_ok, readSet_baseUrl, readSet_timeout, readSet_userAgent]
  constructor
  · rintro ⟨url, hurl, seconds, hseconds, agent, hagent, ⟨⟩⟩
    exact ⟨hurl, hseconds, hagent⟩
  · rintro ⟨hurl, hseconds, hagent⟩
    exact ⟨_, hurl, _, hseconds, _, hagent, rfl⟩

theorem exists_ofLookup_eq_ok : (∃ c, ofLookup lookup = .ok c) ↔
    (∃ url, SaysBaseUrl (lookup baseUrlVariable) url) ∧
      ∃ n, SaysTimeout (lookup timeoutVariable) n := by
  simp only [ofLookup_eq_ok]
  constructor
  · rintro ⟨c, hurl, hseconds, -⟩
    exact ⟨⟨_, hurl⟩, ⟨_, hseconds⟩⟩
  · rintro ⟨⟨url, hurl⟩, ⟨seconds, hseconds⟩⟩
    obtain ⟨agent, hagent⟩ := exists_saysUserAgent (lookup userAgentVariable)
    exact ⟨⟨url, seconds, agent⟩, hurl, hseconds, hagent⟩

theorem refuses_of_error {e : ConfigError} (h : ofLookup lookup = .error e) : Refuses lookup e := by
  have hnot : ¬ ∃ c, ofLookup lookup = .ok c := by
    rintro ⟨c, hc⟩
    rw [h] at hc
    cases hc
  rw [exists_ofLookup_eq_ok] at hnot
  rw [ofLookup_eq] at h
  cases hurl : readSet default.baseUrl readBaseUrl (given lookup baseUrlVariable) with
  | error e' =>
    rw [hurl] at h
    cases h
    obtain ⟨text, htext, hread⟩ := readSet_eq_error hurl
    rw [readBaseUrl_eq_error hread]
    refine .baseUrl htext ?_
    rintro ⟨url, hsays⟩
    rw [readSet_baseUrl.mpr hsays] at hurl
    cases hurl
  | ok url =>
    have hurl' : ∃ url, SaysBaseUrl (lookup baseUrlVariable) url := ⟨url, readSet_baseUrl.mp hurl⟩
    have hnone : ¬ ∃ n, SaysTimeout (lookup timeoutVariable) n := fun hn => hnot ⟨hurl', hn⟩
    cases hseconds : readSet default.timeoutSeconds readTimeout (given lookup timeoutVariable) with
    | error e' =>
      rw [hurl, Except.bind, hseconds] at h
      cases h
      obtain ⟨text, htext, hread⟩ := readSet_eq_error hseconds
      rw [readTimeout_eq_error hread]
      exact .timeout hurl' htext hnone
    | ok n => exact absurd ⟨n, readSet_timeout.mp hseconds⟩ hnone

theorem Refuses.unique {e e' : ConfigError} (h : Refuses lookup e) (h' : Refuses lookup e') :
    e = e' := by
  cases h with
  | baseUrl h hnone =>
    cases h' with
    | baseUrl h' => rw [Option.some.inj (h.symm.trans h')]
    | timeout hurl => exact absurd hurl hnone
  | timeout hurl h =>
    cases h' with
    | baseUrl _ hnone => exact absurd hurl hnone
    | timeout _ h' => rw [Option.some.inj (h.symm.trans h')]

theorem Refuses.not_ok {e : ConfigError} (h : Refuses lookup e) :
    ¬ ∃ c, ofLookup lookup = .ok c := by
  rw [exists_ofLookup_eq_ok]
  rintro ⟨hurl, hseconds⟩
  cases h with
  | baseUrl _ hnone => exact hnone hurl
  | timeout _ _ hnone => exact hnone hseconds

theorem ofLookup_eq_error {e : ConfigError} : ofLookup lookup = .error e ↔ Refuses lookup e := by
  constructor
  · exact refuses_of_error
  · intro h
    cases hresult : ofLookup lookup with
    | ok c => exact absurd ⟨c, hresult⟩ h.not_ok
    | error e' => rw [(refuses_of_error hresult).unique h]

/-! ## What every configuration has -/

theorem SaysBaseUrl.isWeb {value : Option String} (h : SaysBaseUrl value url) :
    IsWeb url ∧ IsTrimmed url.toList := by
  cases h with
  | unset =>
    refine ⟨⟨"api.gdeltproject.org/api/v2/doc/doc", .inr rfl⟩, ?_⟩
    exact ⟨⟨_, _, rfl, rfl⟩, ⟨_, _, rfl, rfl⟩⟩
  | given _ _ hreads =>
    obtain ⟨⟨_, _, -, -, -, htrimmed⟩, hweb⟩ := hreads
    exact ⟨hweb, htrimmed⟩

theorem SaysTimeout.bounds {value : Option String} (h : SaysTimeout value n) :
    1 ≤ n ∧ n < UInt64.size := by
  cases h with
  | unset => decide
  | given _ _ hreads =>
    obtain ⟨_, -, -, hbounds⟩ := hreads
    exact hbounds

theorem SaysUserAgent.not_blank {value : Option String} {agent : String}
    (h : SaysUserAgent value agent) : Text.allBlank agent = false := by
  cases h with
  | unset => rfl
  | given _ hblank hreads => exact hreads ▸ hblank

/-- A configuration is accepted just if its base URL and its timeout are, and then it has what the
variables say: each one that is missing or blank leaves the default. So every configuration has a
web address without blanks around it, a timeout that is not zero and a user agent. If both variables
are wrong, the base URL is to blame, and no other variable is looked at. -/
theorem ofLookup_decides (lookup : String → Option String) :
    (∀ c, ofLookup lookup = .ok c ↔
      SaysBaseUrl (lookup baseUrlVariable) c.baseUrl ∧
      SaysTimeout (lookup timeoutVariable) c.timeoutSeconds ∧
      SaysUserAgent (lookup userAgentVariable) c.userAgent) ∧
    ((∃ c, ofLookup lookup = .ok c) ↔
      (∃ url, SaysBaseUrl (lookup baseUrlVariable) url) ∧
        ∃ n, SaysTimeout (lookup timeoutVariable) n) ∧
    (∀ c, ofLookup lookup = .ok c → IsWeb c.baseUrl ∧ IsTrimmed c.baseUrl.toList ∧
      1 ≤ c.timeoutSeconds ∧ c.timeoutSeconds < UInt64.size ∧ Text.allBlank c.userAgent = false) ∧
    (∀ e, ofLookup lookup = .error e ↔ Refuses lookup e) ∧
    (∀ url, ∃ rest, (ConfigError.baseUrl url).message = baseUrlVariable ++ rest) ∧
    ∀ lookup' : String → Option String,
      (∀ name ∈ [baseUrlVariable, timeoutVariable, userAgentVariable], lookup' name = lookup name) →
        ofLookup lookup' = ofLookup lookup := by
  refine ⟨fun c => ofLookup_eq_ok, exists_ofLookup_eq_ok, fun c hc => ?_,
    fun e => ofLookup_eq_error, fun url => ?_, fun lookup' h => ?_⟩
  · obtain ⟨hurl, hseconds, hagent⟩ := ofLookup_eq_ok.mp hc
    exact ⟨hurl.isWeb.1, hurl.isWeb.2, hseconds.bounds.1, hseconds.bounds.2, hagent.not_blank⟩
  · refine ⟨" must be an http(s) URL, got '" ++ url ++ "'", ?_⟩
    change baseUrlVariable ++ " must be an http(s) URL, got '" ++ url ++ "'" = _
    simp only [String.append_assoc]
  · simp only [List.forall_mem_cons] at h
    obtain ⟨hurl, hseconds, hagent, -⟩ := h
    unfold ofLookup given
    rw [hurl, hseconds, hagent]

end NewsSearch.Config
