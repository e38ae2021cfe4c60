import TaskQuery.Command.Run
import TaskQuery.Proofs.Selector.Agreement
/-!
# Requests

What the arguments and the environment of a run ask for: an action, under settings that were
accepted. Such a run is the run of its action.
-/

namespace TaskQuery.Command

open Query Selector

variable {environment : List (String × String)} {args : List String} {s : Settings}
  {action : Action} {query path : String}

/-- A run that asks for an action: its command and the arguments after it are understood, and
its settings are accepted. -/
inductive Asks (environment : List (String × String)) (args : List String) (s : Settings)
    (action : Action) : Prop where
  | command {options : ProgramOptions} {name : String} {rest : List String}
      (understood : readProgramOptions? {} args = some (options, name :: rest))
      (noVersion : options.version = false) (known : name ∈ commandNames)
      (accepted : Settings.read (givenSettings options) environment = .ok s)
      (taken : readAction? name rest = some action) : Asks environment args s action

namespace Asks

theorem accepted (asks : Asks environment args s action) : s.Accepted := by
  cases asks with
  | command understood noVersion known accepted taken => exact .inr ⟨_, _, accepted⟩

theorem run_eq {m : Type → Type} [Monad m] (readFile : String → m (Except FileError ByteArray))
    (columns : Nat) (asks : Asks environment args s action) :
    run readFile columns environment args = runAction readFile columns s action := by
  cases asks with
  | @command options name rest understood noVersion known accepted taken =>
      have hknown : (!commandNames.contains name) = false := by
        rw [List.contains_iff_mem.2 known]
        rfl
      unfold run
      rw [understood]
      dsimp only
      rw [if_neg (by rw [noVersion]; exact Bool.false_ne_true), if_neg (by
        rw [hknown]; exact Bool.false_ne_true), accepted]
      dsimp only
      rw [taken]

end Asks

theorem isOption_of_head {c : Char} {cs : List Char} (h : query.toList = c :: cs)
    (hc : c ≠ '-') : isOption query = false := by
  unfold isOption
  rw [h]
  split
  · rename_i hdash
    exact absurd (List.cons.inj hdash).1 hc
  · rfl

theorem readCommandArguments?_query {takesJson : Bool} (h : isOption query = false)
    (arguments : CommandArguments) (rest : List String) :
    readCommandArguments? takesJson arguments (query :: rest) =
      readCommandArguments? takesJson
        { arguments with positional := arguments.positional ++ [query] } rest := by
  have hne : query ≠ "--" := by
    rintro rfl
    exact absurd h (by decide)
  have hquery : (!isOption query) = true := by rw [h]; rfl
  rw [readCommandArguments?, if_neg hne, if_pos hquery]

inductive Shows : String → (String → Bool → Action) → Prop where
  | parse : Shows "parse" .parse
  | compile : Shows "compile" .compile

def jsonFlag (json : Bool) : List String :=
  if json then ["--json"] else []

theorem asks_shown {name : String} {act : String → Bool → Action} (shows : Shows name act)
    (json : Bool) (accepted : Settings.read [] environment = .ok s)
    (h : isOption query = false) :
    Asks environment (name :: query :: jsonFlag json) s (act query json) := by
  have harguments : readCommandArguments? true {} (query :: jsonFlag json) =
      some { positional := [query], json } := by
    rw [readCommandArguments?_query h]
    cases json <;> rfl
  cases shows with
  | parse => exact .command rfl rfl (by decide) accepted (congrArg (· >>= _) harguments)
  | compile => exact .command rfl rfl (by decide) accepted (congrArg (· >>= _) harguments)

theorem asks_filter (accepted : Settings.read [] environment = .ok s)
    (hquery : isOption query = false) (hpath : isOption path = false) :
    Asks environment ["filter", query, path] s (.filter query path) := by
  have harguments : readCommandArguments? false {} [query, path] =
      some { positional := [query, path] } := by
    rw [readCommandArguments?_query hquery, readCommandArguments?_query hpath]
    rfl
  refine .command rfl rfl (by decide) accepted ?_
  unfold readAction?
  exact congrArg (· >>= _) harguments

theorem compile_of_accepted_settings (accepted : s.Accepted) (query : String) :
    ∃ compiled, Selector.compile s query = .ok compiled ∧
      compiled.errors = (Selector.parse s query).messages := by
  obtain ⟨c, hc⟩ := accepted.capabilities
  by_cases h : (Selector.parse s query).errors = []
  · refine ⟨_, compile_of_accepted hc h, ?_⟩
    rw [compile_errors_of_parse h, Parsed.messages, h]
    rfl
  · exact ⟨_, compile_of_errors s h, rfl⟩

end TaskQuery.Command
