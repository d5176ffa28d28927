import NewsSearch.Client.Search
import Mathlib.Data.List.Infix

/-!
# What searches send

A search sends one request or, if its filters break a rule, none. What it finds comes from the
answer to its own request alone. `runAll_accounts` says so for searches run one after another, over
any transport.
-/

namespace NewsSearch

/-! ## Pages -/

namespace Response

theorem hasRun_iff {run cs : List Char} : hasRun run cs ↔ run <:+: cs := by
  induction cs with
  | nil => rw [hasRun, List.isEmpty_iff, List.infix_nil]
  | cons c cs ih =>
    rw [hasRun, Bool.or_eq_true, List.isPrefixOf_iff_prefix, ih, List.infix_cons_iff]

/-- The content type is that of a page. -/
def ServesPage (r : Response) : Prop :=
  ∃ t, r.contentType = some t ∧ "text/html".toList <:+: t.toList

theorem isHtml_iff {r : Response} : r.isHtml ↔ r.ServesPage := by
  simp only [isHtml, ServesPage, Option.any_eq_true, hasRun_iff]

end Response

namespace Search

open Json Response

/-! ## From an answer to a result -/

/-- What an answer comes to. The stages are the transport, the content type, the JSON text and, for
timelines, its shape; the first that fails gives the error. -/
inductive Settles : Mode → Except TransportError Response → Except SearchError Findings → Prop
  | transport {m : Mode} {e : TransportError} : Settles m (.error e) (.error (.transport e))
  | page {m : Mode} {r : Response} (h : r.ServesPage) :
      Settles m (.ok r) (.error (.page (Text.trim r.body)))
  | unreadable {m : Mode} {r : Response} {e : RepairError} (h : ¬ r.ServesPage)
      (hparse : Repair.parse Repair.defaultBudget r.body = .error e) :
      Settles m (.ok r) (.error (.unreadable e))
  | articles {r : Response} {members : Members} (h : ¬ r.ServesPage)
      (hparse : Repair.parse Repair.defaultBudget r.body = .ok members) :
      Settles .articleList (.ok r) (.ok (.articles (Article.ofPayload members)))
  | shape {mode : TimelineMode} {r : Response} {members : Members} {p : Decode.Problem}
      (h : ¬ r.ServesPage) (hparse : Repair.parse Repair.defaultBudget r.body = .ok members)
      (hseries : Timeline.Series.ofPayload members = .error p) :
      Settles (.timeline mode) (.ok r) (.error (.shape p))
  | rows {mode : TimelineMode} {r : Response} {members : Members} {series : List Timeline.Series}
      (h : ¬ r.ServesPage) (hparse : Repair.parse Repair.defaultBudget r.body = .ok members)
      (hseries : Timeline.Series.ofPayload members = .ok series) :
      Settles (.timeline mode) (.ok r) (.ok (.rows (Timeline.Row.ofSeries series mode)))

theorem payload_of_page {r : Response} (h : r.ServesPage) :
    payload r = .error (.page (Text.trim r.body)) :=
  if_pos (isHtml_iff.mpr h)

theorem payload_of_not_page {r : Response} (h : ¬ r.ServesPage) :
    payload r = (Repair.parse Repair.defaultBudget r.body).mapError .unreadable :=
  if_neg (isHtml_iff.not.mpr h)

theorem settles_interpret (m : Mode) (answer : Except TransportError Response) :
    Settles m answer (interpret m answer) := by
  cases answer with
  | error e => exact .transport
  | ok r =>
    have hinterpret : interpret m (.ok r) = (payload r).bind (findings m) := rfl
    rw [hinterpret]
    by_cases h : r.ServesPage
    · rw [payload_of_page h]
      exact .page h
    · rw [payload_of_not_page h]
      cases hparse : Repair.parse Repair.defaultBudget r.body with
      | error e => exact .unreadable h hparse
      | ok members =>
        change Settles m (.ok r) (findings m members)
        cases m with
        | articleList => exact .articles h hparse
        | timeline mode =>
          cases hseries : Timeline.Series.ofPayload members with
          | error p =>
            rw [findings, hseries]
            exact .shape h hparse hseries
          | ok series =>
            rw [findings, hseries]
            exact .rows h hparse hseries

/-- The search fails and its filters are to blame. -/
def Outcome.isRefused (o : Outcome) : Bool :=
  match o.result with
  | .error e => e.isClientError
  | .ok _ => false

theorem Settles.not_isRefused {m : Mode} {answer : Except TransportError Response}
    {result : Except SearchError Findings} (h : Settles m answer result) (sent : List Request) :
    Outcome.isRefused ⟨sent, result⟩ = false := by
  cases h <;> rfl

theorem Settles.not_shape {answer : Except TransportError Response}
    {result : Except SearchError Findings} (h : Settles .articleList answer result)
    (p : Decode.Problem) : result ≠ .error (.shape p) := by
  cases h <;> rintro ⟨⟩

/-! ## One search -/

variable (transport : Transport) (sent : List Request) {s : Search}

theorem run_of_error {e : FilterError} (h : s.filters.validate = .error e) :
    s.run transport sent = ⟨sent, .error (.filters e)⟩ := by
  rw [run, request, FilterSet.query, h]
  rfl

theorem request_of_ok {v : ValidatedFilters} (h : s.filters.validate = .ok v) :
    s.request = .ok ⟨Query.compile v, s.mode⟩ := by
  rw [request, FilterSet.query, h]
  rfl

theorem run_of_ok {v : ValidatedFilters} (h : s.filters.validate = .ok v) :
    s.run transport sent = ⟨sent ++ [⟨Query.compile v, s.mode⟩],
      interpret s.mode (transport (sent ++ [⟨Query.compile v, s.mode⟩]))⟩ := by
  rw [run, request_of_ok h]

/-- What one search sends and finds, after the requests `before`. -/
structure Accounted (transport : Transport) (before : List Request) (s : Search) (o : Outcome) :
    Prop where
  atMostOne : o.sent = before ∨ ∃ request, o.sent = before ++ [request]
  unsent_iff : o.sent = before ↔ o.isRefused
  refused_iff : o.isRefused ↔ ∃ e, s.filters.validate = .error e
  error : ∀ e, s.filters.validate = .error e → o.result = .error (.filters e)
  sent : ∀ v, s.filters.validate = .ok v → o.sent = before ++ [⟨Query.compile v, s.mode⟩]
  settles : ∀ v, s.filters.validate = .ok v → Settles s.mode (transport o.sent) o.result
  /-- Over any other transport and after any other requests the result is the same, if the search's
  own request has the same answer. -/
  ownAnswer : ∀ (transport' : Transport) (before' : List Request),
    (∀ request, s.request = .ok request →
      transport' (before' ++ [request]) = transport (before ++ [request])) →
    (s.run transport' before').result = o.result
  articles : s.mode = .articleList → ∀ p, o.result ≠ .error (.shape p)

theorem isRefused_run_of_error {e : FilterError} (h : s.filters.validate = .error e) :
    (s.run transport sent).isRefused = true := by
  rw [run_of_error _ _ h]
  rfl

theorem isRefused_run_of_ok {v : ValidatedFilters} (h : s.filters.validate = .ok v) :
    (s.run transport sent).isRefused = false := by
  rw [run_of_ok _ _ h]
  exact (settles_interpret _ _).not_isRefused _

theorem accounted_run (transport : Transport) (before : List Request) (s : Search) :
    Accounted transport before s (s.run transport before) := by
  cases h : s.filters.validate with
  | error e =>
    have hrun := run_of_error transport before h
    have hrefused := isRefused_run_of_error transport before h
    have hsent : (s.run transport before).sent = before := by rw [hrun]
    have hresult : (s.run transport before).result = .error (.filters e) := by rw [hrun]
    have hnot : ∀ v, s.filters.validate ≠ .ok v := by simp [h]
    exact {
      atMostOne := .inl hsent
      unsent_iff := iff_of_true hsent hrefused
      refused_iff := iff_of_true hrefused ⟨e, h⟩
      error := fun e' h' => by rw [hresult, Except.error.inj (h.symm.trans h')]
      sent := fun v h' => absurd h' (hnot v)
      settles := fun v h' => absurd h' (hnot v)
      ownAnswer := fun transport' before' _ => by rw [hresult, run_of_error _ _ h]
      articles := fun _ p => by simp [hresult] }
  | ok v =>
    have hrun := run_of_ok transport before h
    have hrefused := isRefused_run_of_ok transport before h
    have hsent : (s.run transport before).sent = before ++ [⟨Query.compile v, s.mode⟩] := by
      rw [hrun]
    have hsettles : Settles s.mode (transport (s.run transport before).sent)
        (s.run transport before).result := by
      rw [hrun]
      exact settles_interpret _ _
    have hnot : ∀ e, s.filters.validate ≠ .error e := by simp [h]
    exact {
      atMostOne := .inr ⟨_, hsent⟩
      unsent_iff := iff_of_false (by simp [hsent]) (by simp [hrefused])
      refused_iff := iff_of_false (by simp [hrefused]) (not_exists.mpr hnot)
      error := fun e h' => absurd h' (hnot e)
      sent := fun v' h' => by rw [hsent, Except.ok.inj (h.symm.trans h')]
      settles := fun _ _ => hsettles
      ownAnswer := fun transport' before' hanswer => by
        rw [hrun, run_of_ok _ _ h, hanswer _ (request_of_ok h)]
      articles := fun hmode => (hmode ▸ hsettles).not_shape }

/-! ## Searches one after another -/

/-- Every search is accounted for, each after the requests that are sent by the end of the one
before it. -/
inductive Accounts (transport : Transport) : List Request → List Search → List Outcome → Prop
  | nil (before : List Request) : Accounts transport before [] []
  | cons {before : List Request} {s : Search} {o : Outcome} {searches : List Search}
      {outcomes : List Outcome} (h : Accounted transport before s o)
      (rest : Accounts transport o.sent searches outcomes) :
      Accounts transport before (s :: searches) (o :: outcomes)

theorem accounts_runAll (transport : Transport) (before : List Request) (searches : List Search) :
    Accounts transport before searches (runAll transport before searches) := by
  induction searches generalizing before with
  | nil => exact .nil before
  | cons s searches ih => exact .cons (accounted_run transport before s) (ih _)

/-- The filters keep the rules. -/
def isAccepted (s : Search) : Bool := s.filters.validate.isOk

theorem runAll_filter (transport : Transport) (before : List Request) (searches : List Search) :
    (runAll transport before searches).filter (! ·.isRefused) =
      runAll transport before (searches.filter isAccepted) := by
  induction searches generalizing before with
  | nil => rfl
  | cons s searches ih =>
    rw [runAll, List.filter_cons, List.filter_cons]
    cases h : s.filters.validate with
    | error e =>
      have haccepted : s.isAccepted = false := by rw [isAccepted, h]; rfl
      have hsent : (s.run transport before).sent = before := by rw [run_of_error _ _ h]
      rw [isRefused_run_of_error _ _ h, haccepted, hsent]
      exact ih before
    | ok v =>
      have haccepted : s.isAccepted = true := by rw [isAccepted, h]; rfl
      rw [isRefused_run_of_ok _ _ h, haccepted]
      simp only [Bool.not_false, if_true]
      rw [runAll, ih]

/-- Without refused searches every search sends a request. -/
theorem length_sent_runAll {transport : Transport} {before : List Request}
    {searches : List Search} (h : ∀ s ∈ searches, s.isAccepted) {i : Nat} {o : Outcome}
    (ho : (runAll transport before searches)[i]? = some o) :
    o.sent.length = before.length + (i + 1) := by
  induction searches generalizing before i with
  | nil => cases ho
  | cons s searches ih =>
    have hs := h s List.mem_cons_self
    rw [runAll] at ho
    cases hv : s.filters.validate with
    | error e =>
      rw [isAccepted, hv] at hs
      cases hs
    | ok v =>
      have hlength : (s.run transport before).sent.length = before.length + 1 := by
        rw [run_of_ok _ _ hv, List.length_append, List.length_singleton]
      cases i with
      | zero =>
        obtain rfl := Option.some.inj ho
        exact hlength
      | succ i =>
        have hrest := ih (fun s hs => h s (List.mem_cons_of_mem _ hs)) ho
        omega

/-- Every search of a row sends at most one request, that of its own filters and mode, and none
exactly if its filters break a rule. Its result comes from the answer to that request alone. Refused
searches leave no trace in the others, so the answers go to the searches that are not refused, one to
each in order. -/
theorem runAll_accounts (transport : Transport) (before : List Request) (searches : List Search) :
    Accounts transport before searches (runAll transport before searches) ∧
    (runAll transport before searches).filter (! ·.isRefused) =
      runAll transport before (searches.filter isAccepted) ∧
    ∀ i o, ((runAll transport before searches).filter (! ·.isRefused))[i]? = some o →
      o.sent.length = before.length + (i + 1) := by
  refine ⟨accounts_runAll transport before searches, runAll_filter transport before searches, ?_⟩
  intro i o ho
  rw [runAll_filter] at ho
  exact length_sent_runAll (fun s hs => (List.mem_filter.mp hs).2) ho

end Search

end NewsSearch
