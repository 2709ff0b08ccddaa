import SqlGateway.CommandLine.Login
import SqlGateway.Proofs.CommandLine.Items

/-!
# What two levels make together

`said` is what a command line and its environment say of a setting: the lower level goes before
the upper one, and that before the environment.  `Follows` says that an invocation is what is
said, and `LogsIn` that so is its credential.  `read_follows_levels` puts them together.

Only the values on each level matter (`makes_iff`), not their order.  So what is said once may
as well be said on the other level (`Moved`).
-/

namespace SqlGateway.CommandLine

/-! ## Both levels and the environment -/

/-- The variable that gives a setting its value where no argument does. -/
def Setting.environmentName? : Setting → Option String
  | .apiKey => some "SPLITGRAPH_API_KEY"
  | .apiSecret => some "SPLITGRAPH_API_SECRET"
  | .token => some "MADATDATA_TOKEN"
  | _ => none

/-- What is said of a setting: on the lower level, or else on the upper level, or else by its
variable. -/
def said (env : Environment) (upper lower : List Item) (s : Setting) : Option String :=
  ((values s lower).head?.or (values s upper).head?).or (s.environmentName?.bind env.get?)

/-- How many times more is to be told: as often as the lower level says, or else as often as
the upper level says, up to 255. -/
def loudness (upper lower : List Item) : Nat :=
  min 255 (if times .verbose lower = 0 then times .verbose upper else times .verbose lower)

/-- The connection that is said. -/
def Connection.said (env : Environment) (upper lower : List Item) : Connection where
  backend := ((CommandLine.said env upper lower .backend).bind fun text =>
    (Backend.read text).toOption).getD .splitgraph
  endpoint := CommandLine.said env upper lower .endpoint
  apiKey := CommandLine.said env upper lower .apiKey
  apiSecret := CommandLine.said env upper lower .apiSecret
  token := CommandLine.said env upper lower .token
  promptSecret := decide (0 < times .promptSecret (upper ++ lower))
  timeout := ((CommandLine.said env upper lower .timeout).bind fun text =>
    (Numeral.read UInt64.size text.toList).toOption).getD 30

/-- The invocation that is said, but for its command. -/
def Invocation.said (env : Environment) (upper lower : List Item) (command : Command) :
    Invocation :=
  ⟨.said env upper lower, loudness upper lower, decide (0 < times .quiet (upper ++ lower)), command⟩

variable {s : Setting} {items upper lower : List Item} {text : String} {env : Environment}
  {v : Verb} {i : Invocation} {command : Command}

/-- A value that is read is that of the first text there is. -/
theorem or_bind_toOption {α ε : Type} {read : String → Except ε α} {texts : List String}
    (readable : ∀ text ∈ texts, ∃ a, read text = .ok a) (others : List String) :
    (texts.head?.bind fun text => (read text).toOption).or
        (others.head?.bind fun text => (read text).toOption) =
      (texts.head?.or others.head?).bind fun text => (read text).toOption := by
  cases texts with
  | nil => rfl
  | cons text _ =>
      obtain ⟨a, eq⟩ := readable text List.mem_cons_self
      simp [eq, Except.toOption]

/-- What both levels give, laid over the environment, is what they say. -/
theorem ofGiven_laidOver (acceptable : Acceptable lower) :
    Invocation.ofGiven ((Given.ofItems lower).laidOver
        ((Given.ofItems upper).laidOver (.ofEnvironment env))) command =
      .said env upper lower command := by
  have backend := or_bind_toOption (acceptable.admits .backend) (values .backend upper)
  have timeout := or_bind_toOption (acceptable.admits .timeout) (values .timeout upper)
  have verbose : (if min 255 (times .verbose lower) = 0 then
        if min 255 (times .verbose upper) = 0 then 0 else min 255 (times .verbose upper)
      else min 255 (times .verbose lower)) = loudness upper lower := by
    rw [loudness]
    split_ifs <;> omega
  have turned (o : Switch) : (decide (0 < times o lower) || (decide (0 < times o upper) || false)) =
      decide (0 < times o (upper ++ lower)) := by
    rw [times_append, Bool.or_false, ← Bool.decide_or]
    exact decide_eq_decide.mpr (by omega)
  simp only [Invocation.ofGiven, Connection.ofGiven, Given.laidOver, Given.ofItems,
    Given.ofEnvironment, Option.or_none, turned, backend, timeout, Option.or_assoc,
    Invocation.said, Connection.said, said, Setting.environmentName?, Option.bind_some,
    Option.bind_none]
  rw [← verbose]
  rfl

/-- Acceptable items make what they say, and no others make anything. -/
theorem makes_iff : Makes env v upper lower i ↔ Acceptable upper ∧ Acceptable lower ∧
    ∃ command, Command.ofGiven v (.ofItems lower) = .ok command ∧
      i = .said env upper lower command := by
  constructor
  · rintro ⟨g, under, command, above, below, complete, rfl⟩
    obtain ⟨upper, rfl⟩ := foldlM_add_eq_ok_iff.mp above
    obtain ⟨lower, rfl⟩ := foldlM_add_eq_ok_iff.mp below
    exact ⟨upper, lower, command, complete, ofGiven_laidOver lower⟩
  · rintro ⟨above, below, command, complete, rfl⟩
    exact ⟨_, _, command, foldlM_add_eq_ok_iff.mpr ⟨above, rfl⟩,
      foldlM_add_eq_ok_iff.mpr ⟨below, rfl⟩, complete, (ofGiven_laidOver below).symm⟩

/-! ## Saying it on the other level -/

/-- What two levels say, said again: where it is not said on the same level, it is said once on
either. -/
structure Moved (upper lower upper' lower' : List Item) : Prop where
  /-- Every setting has the same values on the same levels, or one value in all. -/
  values_eq : ∀ s, values s upper' = values s upper ∧ values s lower' = values s lower ∨
    (values s (upper ++ lower)).length = 1 ∧ values s (upper' ++ lower') = values s (upper ++ lower)
  /-- Every switch is turned on as often on the same levels, or once in all. -/
  times_eq : ∀ o, times o upper' = times o upper ∧ times o lower' = times o lower ∨
    times o (upper ++ lower) = 1 ∧ times o (upper' ++ lower') = 1
  /-- The operands are the same. -/
  operands_eq : operands upper' = operands upper ∧ operands lower' = operands lower

variable {upper' lower' : List Item} {arguments arguments' : List String}

/-- A single value is that of the one level or of the other. -/
theorem head?_or_of_single (one : (values s (upper ++ lower)).length = 1) :
    (values s lower).head?.or (values s upper).head? = (values s (upper ++ lower)).head? := by
  obtain ⟨text, single⟩ := List.length_eq_one_iff.mp one
  rw [single]
  rw [values_append] at single
  rcases List.append_eq_singleton_iff.mp single with ⟨none, one⟩ | ⟨one, none⟩ <;>
    simp [none, one]

theorem Moved.said (moved : Moved upper lower upper' lower') :
    CommandLine.said env upper' lower' s = CommandLine.said env upper lower s := by
  rw [CommandLine.said, CommandLine.said]
  rcases moved.values_eq s with ⟨above, below⟩ | ⟨single, same⟩
  · rw [above, below]
  · rw [head?_or_of_single single, head?_or_of_single (same ▸ single), same]

theorem Moved.loudness (moved : Moved upper lower upper' lower') :
    CommandLine.loudness upper' lower' = CommandLine.loudness upper lower := by
  have times_eq := moved.times_eq .verbose
  simp only [times_append] at times_eq
  rw [CommandLine.loudness, CommandLine.loudness]
  split_ifs <;> omega

theorem Moved.invocation (moved : Moved upper lower upper' lower') :
    Invocation.said env upper' lower' command = Invocation.said env upper lower command := by
  have turned (o : Switch) : times o (upper' ++ lower') = times o (upper ++ lower) := by
    have times_eq := moved.times_eq o
    simp only [times_append] at times_eq ⊢
    omega
  simp only [Invocation.said, Connection.said, moved.said, moved.loudness, turned]

/-- Items are acceptable that say nothing twice and nothing new. -/
theorem Acceptable.within (above : Acceptable upper) (below : Acceptable lower)
    (values_le : ∀ s, (values s items).length ≤ 1)
    (known : ∀ s, values s items ⊆ values s upper ++ values s lower)
    (times_le : ∀ o, times o items ≤ max (times o upper) (times o lower))
    (operands_eq : operands items = operands upper ∨ operands items = operands lower) :
    Acceptable items where
  values_le := values_le
  admits s text mem := by
    rcases List.mem_append.mp (known s mem) with mem | mem
    · exact above.admits s text mem
    · exact below.admits s text mem
  times_le o other := by
    have le := times_le o
    have le_upper := above.times_le o other
    have le_lower := below.times_le o other
    omega
  runs := by
    have help := times_le .help
    have version := times_le .version
    have none_upper := above.runs
    have none_lower := below.runs
    omega
  operands_le := by
    rcases operands_eq with eq | eq <;> rw [eq]
    · exact above.operands_le
    · exact below.operands_le

/-- A single value is the same in any order of the levels. -/
theorem swap_of_single (one : (values s (upper ++ lower)).length = 1) :
    values s (lower ++ upper) = values s (upper ++ lower) := by
  obtain ⟨text, single⟩ := List.length_eq_one_iff.mp one
  rw [single]
  rw [values_append] at single ⊢
  rcases List.append_eq_singleton_iff.mp single with ⟨none, one⟩ | ⟨one, none⟩ <;>
    simp [none, one]

/-- The two levels change places. -/
theorem Moved.swap (moved : Moved upper lower upper' lower') : Moved lower upper lower' upper' where
  values_eq s := by
    rcases moved.values_eq s with ⟨above, below⟩ | ⟨single, same⟩
    · exact .inl ⟨below, above⟩
    · exact .inr ⟨swap_of_single single ▸ single, by
        rw [swap_of_single single, swap_of_single (same ▸ single), same]⟩
  times_eq o := by
    have times_eq := moved.times_eq o
    simp only [times_append] at times_eq ⊢
    omega
  operands_eq := moved.operands_eq.symm

/-- What acceptable levels say is acceptable on the upper level. -/
theorem Moved.acceptable (moved : Moved upper lower upper' lower') (above : Acceptable upper)
    (below : Acceptable lower) : Acceptable upper' := by
  refine above.within below (fun s => ?_) (fun s => ?_) (fun o => ?_) (.inl moved.operands_eq.1)
  · rcases moved.values_eq s with ⟨same, -⟩ | ⟨single, same⟩
    · exact same ▸ above.values_le s
    · rw [← same, values_append, List.length_append] at single
      omega
  · rcases moved.values_eq s with ⟨same, -⟩ | ⟨-, same⟩
    · exact same ▸ List.subset_append_left _ _
    · rw [← values_append, ← same, values_append]
      exact List.subset_append_left _ _
  · have times_eq := moved.times_eq o
    simp only [times_append] at times_eq
    omega

/-- A level has no items for what it does not take. -/
theorem Whole.takes {l : Level} {a : String} (whole : Whole l a items)
    (mem : .setting s text ∈ items) : l.takes s = true := by
  cases whole with
  | setting _ takes =>
      cases List.mem_singleton.mp mem
      exact takes
  | switch _ => cases List.mem_singleton.mp mem
  | letters _ =>
      obtain ⟨_, _, same⟩ := List.mem_map.mp mem
      cases same
  | operand _ _ => cases List.mem_singleton.mp mem

theorem Spells.takes {l : Level} {w : Option Setting} (spells : Spells l w arguments items)
    (waiting : ∀ o ∈ w, l.takes o = true) (mem : .setting s text ∈ items) :
    l.takes s = true := by
  induction spells with
  | nil => cases mem
  | whole whole _ ih =>
      rcases List.mem_append.mp mem with mem | mem
      · exact whole.takes mem
      · exact ih nofun mem
  | apart takes _ ih => exact ih (fun o same => Option.some.inj same ▸ takes) mem
  | value _ _ ih =>
      rcases List.mem_cons.mp mem with same | mem
      · cases same
        exact waiting _ rfl
      · exact ih nofun mem

theorem Spells.values_eq_nil {l : Level} (spells : Spells l none arguments items)
    (not : l.takes s = false) : values s items = [] := by
  refine List.filterMap_eq_nil_iff.mpr fun x mem => ?_
  cases x with
  | switch | operand => rfl
  | setting t text =>
      refine if_neg ?_
      rintro rfl
      cases (spells.takes nofun mem).symm.trans not

/-- The command is the same. -/
theorem Moved.ofGiven_eq (moved : Moved upper lower upper' lower')
    (line : Says arguments v upper lower) (line' : Says arguments' v upper' lower') :
    Command.ofGiven v (.ofItems lower') = Command.ofGiven v (.ofItems lower) := by
  obtain ⟨_, _, -, above, -⟩ := line
  obtain ⟨_, _, -, above', -⟩ := line'
  have same {s : Setting} (not : Level.upper.takes s = false) :
      values s lower' = values s lower := by
    have single := moved.values_eq s
    simp only [values_append, above.values_eq_nil not, above'.values_eq_nil not,
      List.nil_append] at single
    rcases single with ⟨-, same⟩ | ⟨-, same⟩ <;> exact same
  have source := same (s := .source) rfl
  have destination := same (s := .destination) rfl
  cases v <;>
    simp [Command.ofGiven, Given.ofItems, moved.operands_eq.2, source, destination]

/-! ## Credentials -/

/-- How an API key, a secret, a token and the wish to be asked make a login: what is asked for,
and what comes of it where prompts are answered so. -/
inductive LogsIn (answers : Prompt → Answer) :
    (apiKey apiSecret token : Option String) → (promptSecret : Bool) → Option Prompt →
      Except Failure (Option Credential) → Prop where
  | keyPrompted {key secret : String} {apiSecret token : Option String}
      (answered : answers .apiSecret = .ok secret) :
      LogsIn answers (some key) apiSecret token true (some .apiSecret)
        (.ok (some (.apiKey key secret)))
  | keyUnanswered {key cause : String} {apiSecret token : Option String}
      (unanswered : answers .apiSecret = .error cause) :
      LogsIn answers (some key) apiSecret token true (some .apiSecret)
        (.error (.noAnswer .apiSecret cause))
  | keyGiven {key secret : String} {token : Option String} :
      LogsIn answers (some key) (some secret) token false none
        (.ok (some (.apiKey key secret)))
  | keyAlone {key : String} {token : Option String} :
      LogsIn answers (some key) none token false none (.error .noSecret)
  | tokenPrompted {text : String} {apiSecret token : Option String}
      (answered : answers .token = .ok text) :
      LogsIn answers none apiSecret token true (some .token) (.ok (some (.token text)))
  | tokenUnanswered {cause : String} {apiSecret token : Option String}
      (unanswered : answers .token = .error cause) :
      LogsIn answers none apiSecret token true (some .token) (.error (.noAnswer .token cause))
  | tokenGiven {text : String} {apiSecret : Option String} :
      LogsIn answers none apiSecret (some text) false none (.ok (some (.token text)))
  | anonymous {apiSecret : Option String} :
      LogsIn answers none apiSecret none false none (.ok none)

/-- A connection logs in with what it holds. -/
theorem Connection.logsIn (c : Connection) (answers : Prompt → Answer) :
    LogsIn answers c.apiKey c.apiSecret c.token c.promptSecret c.login.prompt?
      ((c.login.value answers).map Login.credential) := by
  obtain ⟨_, _, apiKey, apiSecret, token, promptSecret, _⟩ := c
  cases apiKey with
  | some key =>
      cases promptSecret with
      | true =>
          cases answered : answers .apiSecret with
          | ok secret =>
              simp only [login, if_true, Asking.prompt?, Asking.value, answered]
              exact .keyPrompted answered
          | error cause =>
              simp only [login, if_true, Asking.prompt?, Asking.value, answered]
              exact .keyUnanswered answered
      | false =>
          cases apiSecret with
          | some secret => exact .keyGiven
          | none => exact .keyAlone
  | none =>
      cases promptSecret with
      | true =>
          cases answered : answers .token with
          | ok text =>
              simp only [login, if_true, Asking.prompt?, Asking.value, answered]
              exact .tokenPrompted answered
          | error cause =>
              simp only [login, if_true, Asking.prompt?, Asking.value, answered]
              exact .tokenUnanswered answered
      | false =>
          cases token with
          | some text => exact .tokenGiven
          | none => exact .anonymous

/-! ## What a command line comes to -/

/-- A value is read from a text, or is the default one where there is no text. -/
def Chosen {α ε : Type} (read : String → Except ε α) (default : α) (text? : Option String)
    (a : α) : Prop :=
  match text? with
  | none => a = default
  | some text => read text = .ok a

/-- An invocation is what is said on two levels and by the environment. -/
structure Invocation.Follows (env : Environment) (upper lower : List Item) (i : Invocation) :
    Prop where
  backend : Chosen Backend.read .splitgraph (CommandLine.said env upper lower .backend)
    i.connection.backend
  endpoint : i.connection.endpoint = CommandLine.said env upper lower .endpoint
  apiKey : i.connection.apiKey = CommandLine.said env upper lower .apiKey
  apiSecret : i.connection.apiSecret = CommandLine.said env upper lower .apiSecret
  token : i.connection.token = CommandLine.said env upper lower .token
  promptSecret : i.connection.promptSecret = true ↔ .switch .promptSecret ∈ upper ++ lower
  timeout : Chosen (fun text => Numeral.read UInt64.size text.toList) 30
    (CommandLine.said env upper lower .timeout) i.connection.timeout
  verbose : i.verbose = loudness upper lower
  quiet : i.quiet = true ↔ .switch .quiet ∈ upper ++ lower

/-- A value that can be read is chosen. -/
theorem chosen_getD {α ε : Type} {read : String → Except ε α} {default : α}
    {text? : Option String} (readable : ∀ text ∈ text?, ∃ a, read text = .ok a) :
    Chosen read default text? ((text?.bind fun text => (read text).toOption).getD default) := by
  cases text? with
  | none => rfl
  | some text =>
      obtain ⟨a, eq⟩ := readable text rfl
      simp [Chosen, eq, Except.toOption]

theorem Acceptable.admits_said (above : Acceptable upper) (below : Acceptable lower)
    (unset : s.environmentName? = none) (mem : text ∈ said env upper lower s) : s.Admits text := by
  rw [said, unset, Option.bind_none, Option.or_none, Option.mem_def, Option.or_eq_some_iff]
    at mem
  rcases mem with head | ⟨-, head⟩
  · exact below.admits s text (List.mem_of_mem_head? head)
  · exact above.admits s text (List.mem_of_mem_head? head)

theorem Acceptable.follows (above : Acceptable upper) (below : Acceptable lower) :
    (Invocation.said env upper lower command).Follows env upper lower where
  backend := chosen_getD fun _ mem => above.admits_said below rfl mem
  endpoint := rfl
  apiKey := rfl
  apiSecret := rfl
  token := rfl
  promptSecret := decide_eq_true_iff.trans List.count_pos_iff
  timeout := chosen_getD fun _ mem => above.admits_said below rfl mem
  verbose := rfl
  quiet := decide_eq_true_iff.trans List.count_pos_iff

/-- A command line that is read says one thing on two levels.  No level gives a setting twice.
The invocation is what is said, and so is its login, however prompts are answered.  The same
said on other levels, where it is said once, is read as the same invocation. -/
theorem read_follows_levels (free : "--" ∉ arguments)
    (read : Invocation.read env arguments = .ok i) :
    ∃ v upper lower, Says arguments v upper lower ∧
      (∀ s, (values s upper).length ≤ 1 ∧ (values s lower).length ≤ 1) ∧
      i.Follows env upper lower ∧
      (∀ answers, LogsIn answers (said env upper lower .apiKey)
        (said env upper lower .apiSecret) (said env upper lower .token)
        (decide (.switch .promptSecret ∈ upper ++ lower)) i.connection.login.prompt?
        ((i.connection.login.value answers).map Login.credential)) ∧
      ∀ arguments' upper' lower', Says arguments' v upper' lower' →
        Moved upper lower upper' lower' → Invocation.read env arguments' = .ok i := by
  obtain ⟨v, upper, lower, line, makes⟩ := says_of_read free read
  obtain ⟨above, below, command, complete, rfl⟩ := makes_iff.mp makes
  have follows : (Invocation.said env upper lower command).Follows env upper lower :=
    above.follows below
  refine ⟨v, upper, lower, line, fun s => ⟨above.values_le s, below.values_le s⟩, follows,
    fun answers => ?_, fun arguments' upper' lower' line' moved => ?_⟩
  · have asked : decide (.switch .promptSecret ∈ upper ++ lower) =
        (Invocation.said env upper lower command).connection.promptSecret :=
      Bool.eq_iff_iff.mpr (decide_eq_true_iff.trans follows.promptSecret.symm)
    rw [asked]
    exact (Invocation.said env upper lower command).connection.logsIn answers
  · have made : Makes env v upper' lower' (.said env upper' lower' command) := by
      refine makes_iff.mpr ⟨moved.acceptable above below, moved.swap.acceptable below above,
        command, ?_, rfl⟩
      rw [moved.ofGiven_eq line line', complete]
    rw [moved.invocation] at made
    exact line'.read_eq made

/-- An endpoint with the name of a command, moved behind the command. -/
theorem read_follows_levels_moved :
    Invocation.read ⟨[("SPLITGRAPH_API_KEY", "")]⟩
        ["--token", "t", "query", "SELECT 1", "--endpoint", "query"] =
      .ok ⟨⟨.splitgraph, some "query", some "", none, some "t", false, 30⟩, 0, false,
        .query "SELECT 1"⟩ := by
  have read : Invocation.read ⟨[("SPLITGRAPH_API_KEY", "")]⟩
        ["--token", "t", "--endpoint", "query", "query", "SELECT 1"] =
      .ok ⟨⟨.splitgraph, some "query", some "", none, some "t", false, 30⟩, 0, false,
        .query "SELECT 1"⟩ := by rfl
  obtain ⟨v, upper, lower, line, -, -, -, elsewhere⟩ := read_follows_levels (by decide) read
  have token (items : List Item) (more : List String) (spells : Spells .upper none more items) :
      Spells .upper none ("--token" :: "t" :: more) (.setting .token "t" :: items) :=
    .apart (s := .token) rfl (.value (by simp [IsPlain]) spells)
  have endpoint (l : Level) : Spells l none ["--endpoint", "query"] [.setting .endpoint "query"] :=
    .apart (s := .endpoint) rfl (.value (by simp [IsPlain]) .nil)
  have sql (items : List Item) (more : List String)
      (spells : Spells (.lower .query) none more items) :
      Spells (.lower .query) none ("SELECT 1" :: more) (.operand "SELECT 1" :: items) :=
    .whole (.operand rfl (by simp [IsPlain])) spells
  obtain ⟨rfl, rfl, rfl⟩ := line.unique
    ⟨_, _, rfl, token _ _ (endpoint .upper), sql _ _ .nil⟩
  refine elsewhere _ _ _
    ⟨_, _, rfl, token _ _ .nil, sql _ _ (endpoint _)⟩ ⟨fun s => ?_, fun o => .inl ?_, ?_⟩
  · cases s <;> decide
  · cases o <;> decide
  · decide

end SqlGateway.CommandLine
