import RecordSql.Proofs.Database.Dialects
import RecordSql.Proofs.Except

/-!
# Layers of settings

Where the database is and in which dialect statements are compiled is said by the arguments, the
environment and a file, each of which may be silent. Every layer overrides those below it, setting
by setting; only where no layer names a dialect does the URL in force imply one.

* `Layer.url?`, `Layer.dialectOf`: what layers come to, said at once for all of them.
* `Config.url_overriddenBy`, `Config.effectiveDialect_overriddenBy`: overriding comes to the same.
* `CommandLine.Invocation.read_of_environment`: the environment adds nothing to the arguments but a
  URL below theirs.
* `settings_of_layers`: the settings that the command line runs with, and when it has none.
-/

namespace RecordSql

/-! ## Layers -/

/-- What a layer of settings says. -/
structure Layer where
  url : Option String
  dialect : Option Dialect

namespace Layer

/-- The URL in force: that of the highest layer that has one. -/
def url? (layers : List Layer) : Option String :=
  layers.findSome? url

/-- The dialect in force: the one that the highest layer names of those that name one. If no layer
    does, it is the one of the URL in force, or the default one without a URL. -/
def dialectOf (layers : List Layer) : Dialect :=
  match layers.findSome? dialect with
  | some d => d
  | none => (url? layers).elim .default .ofUrl

/-- The highest layer that names a dialect decides, whatever URLs there are. -/
theorem dialectOf_of_named {higher lower : List Layer} {l : Layer} {d : Dialect}
    (hhigher : ∀ h ∈ higher, h.dialect = none) (hl : l.dialect = some d) :
    dialectOf (higher ++ l :: lower) = d := by
  have hfirst : (higher ++ l :: lower).findSome? dialect = some d := by
    rw [List.findSome?_append, List.findSome?_eq_none_iff.mpr hhigher,
      List.findSome?_cons_of_isSome]
    · exact hl
    · rw [hl]
      rfl
  rw [dialectOf, hfirst]

end Layer

namespace Config

/-- What the settings say as one of several layers. -/
def layer (c : Config) : Layer :=
  ⟨c.url, c.dialect⟩

/-- The settings under layers, from the highest to the lowest. -/
def overriddenBy (c : Config) (layers : List Layer) : Config :=
  layers.foldr (fun l c => c.override l.url l.dialect) c

theorem url_overriddenBy (c : Config) (layers : List Layer) :
    (c.overriddenBy layers).url = Layer.url? (layers ++ [c.layer]) := by
  induction layers with
  | nil => simp [overriddenBy, Layer.url?, layer]
  | cons l layers ih =>
    show (l.url <|> (c.overriddenBy layers).url) = _
    rw [ih]
    cases h : l.url <;> simp [Layer.url?, h]

theorem dialect_overriddenBy (c : Config) (layers : List Layer) :
    (c.overriddenBy layers).dialect = (layers ++ [c.layer]).findSome? Layer.dialect := by
  induction layers with
  | nil => simp [overriddenBy, layer]
  | cons l layers ih =>
    show (l.dialect <|> (c.overriddenBy layers).dialect) = _
    rw [ih]
    cases h : l.dialect <;> simp [h]

theorem identity_overriddenBy (c : Config) (layers : List Layer) :
    (c.overriddenBy layers).identity = c.identity := by
  induction layers with
  | nil => rfl
  | cons l layers ih => exact ih

theorem effectiveDialect_overriddenBy (c : Config) (layers : List Layer) :
    (c.overriddenBy layers).effectiveDialect = Layer.dialectOf (layers ++ [c.layer]) := by
  rw [effectiveDialect, Layer.dialectOf, url_overriddenBy, dialect_overriddenBy]
  cases (layers ++ [c.layer]).findSome? Layer.dialect with
  | some d => rfl
  | none =>
    cases Layer.url? (layers ++ [c.layer]) with
    | some url => simp
    | none => simp

/-- To name a URL in a higher layer as well changes nothing. -/
theorem override_or (c : Config) (url environment : Option String) (dialect : Option Dialect)
    (named : Option Dialect) :
    (c.override environment named).override (url <|> environment) dialect =
      (c.override environment named).override url dialect := by
  cases url with
  | some url => rfl
  | none => cases environment <;> rfl

end Config

/-! ## The environment -/

namespace Dialect

theorem ofAnyCase?_eq_some_iff {name : String} {d : Dialect} :
    ofAnyCase? name = some d ↔ Text.lower name = d.name := by
  have hlower : ∀ d : Dialect, Text.lower d.name = d.name := by
    intro d
    cases d <;> decide +kernel
  constructor
  · intro h
    have hfold := List.find?_some (p := fun d : Dialect => Text.equalFold d.name name) h
    rw [← Text.equalFold_iff.mp hfold, hlower]
  · intro h
    have hfold : ∀ e : Dialect, Text.equalFold e.name name = (e.name == d.name) := by
      intro e
      rw [Text.equalFold, hlower, h]
    simp only [ofAnyCase?, hfold]
    cases d <;> decide

theorem ofAnyCase?_eq_none_iff {name : String} :
    ofAnyCase? name = none ↔ ∀ d : Dialect, Text.lower name ≠ d.name := by
  simp only [Option.eq_none_iff_forall_ne_some, ne_eq, ofAnyCase?_eq_some_iff]

end Dialect

namespace Surroundings

/-- The environment names a dialect that there is not. -/
def NamesUnknown (s : Surroundings) (name : String) : Prop :=
  s.environment Config.dialectVariable = some name ∧ ∀ d : Dialect, Text.lower name ≠ d.name

/-- What the environment says. -/
def layer (s : Surroundings) : Layer :=
  ⟨s.environment Config.urlVariable,
    (s.environment Config.dialectVariable).bind Dialect.ofAnyCase?⟩

end Surroundings

namespace Config

/-- The settings of the file in use, which are none without such a file. -/
def ofFileInUse (s : Surroundings) : Except Error Config :=
  match locate? s with
  | some path => ofFile s.files path
  | none => .ok {}

/-- The error about a dialect that the environment names and that there is not. -/
def unknownDialect (name : String) : Error :=
  .config (dialectVariable ++ " has unknown dialect '" ++ name ++ "'")

theorem load_eq (s : Surroundings) :
    load s = (ofFileInUse s).bind fun c => c.overrideByEnvironment s.environment := by
  rw [load, ofFileInUse]
  cases locate? s <;> rfl

/-- The environment overrides settings unless it names a dialect that there is not. -/
theorem overrideByEnvironment_cases (c : Config) (s : Surroundings) :
    (∃ name, s.NamesUnknown name ∧
      c.overrideByEnvironment s.environment = .error (unknownDialect name)) ∨
    (∀ name, ¬ s.NamesUnknown name) ∧
      c.overrideByEnvironment s.environment = .ok (c.overriddenBy [s.layer]) := by
  unfold overrideByEnvironment
  cases hvariable : s.environment dialectVariable with
  | none =>
    have hlayer : s.layer = ⟨s.environment urlVariable, none⟩ := by
      rw [Surroundings.layer, hvariable]
      rfl
    refine .inr ⟨fun name hname => ?_, ?_⟩
    · rw [hname.1] at hvariable
      cases hvariable
    · rw [hlayer]
      rfl
  | some name =>
    cases hdialect : Dialect.ofAnyCase? name with
    | none =>
      refine .inl ⟨name, ⟨hvariable, Dialect.ofAnyCase?_eq_none_iff.mp hdialect⟩, ?_⟩
      dsimp only
      rw [dialectOfVariable, hdialect]
      rfl
    | some d =>
      have hlayer : s.layer = ⟨s.environment urlVariable, some d⟩ := by
        rw [Surroundings.layer, hvariable, Option.bind_some, hdialect]
      refine .inr ⟨fun other hother => ?_, ?_⟩
      · obtain rfl : name = other := Option.some.inj (hvariable.symm.trans hother.1)
        exact hother.2 d (Dialect.ofAnyCase?_eq_some_iff.mp hdialect)
      · rw [hlayer]
        dsimp only
        rw [dialectOfVariable, hdialect]
        rfl

end Config

namespace CommandLine

namespace Invocation

/-- What arguments ask for is made of the options on the two sides of a command. -/
theorem read_eq_ok_iff {url : Option String} {arguments : List String} {i : Invocation} :
    read url arguments = .ok i ↔
      ∃ before name rest after said saidBefore,
        Reading.beforeCommand {} arguments = .ok (before, some (name, rest)) ∧
        Reading.afterCommand (Opt.afterCommand name) {} rest = .ok after ∧
        after.settle = .ok said ∧ requireFilter name said.given = .ok () ∧
        before.settle = .ok saidBefore ∧ ofGiven url name saidBefore.given said.given = i := by
  simp only [read, bind_eq_ok_iff]
  constructor
  · rintro ⟨⟨before, next⟩, hbefore, h⟩
    cases next with
    | none =>
      obtain ⟨said, -, h⟩ := bind_eq_ok_iff.mp h
      split at h <;> cases h
    | some next =>
      obtain ⟨name, rest⟩ := next
      simp only [bind_eq_ok_iff] at h
      obtain ⟨after, hafter, said, hsaid, ⟨⟩, hfilter, saidBefore, hsaidBefore, h⟩ := h
      exact ⟨before, name, rest, after, said, saidBefore, hbefore, hafter, hsaid, hfilter,
        hsaidBefore, Except.ok.inj h⟩
  · rintro ⟨before, name, rest, after, said, saidBefore, hbefore, hafter, hsaid, hfilter,
      hsaidBefore, rfl⟩
    refine ⟨(before, some (name, rest)), hbefore, ?_⟩
    simp only [bind_eq_ok_iff]
    exact ⟨after, hafter, said, hsaid, (), hfilter, saidBefore, hsaidBefore, rfl⟩

/-- What is asked for where the environment has a URL, which is below that of the arguments. -/
def inEnvironment (asked : Invocation) (url : Option String) : Invocation :=
  { asked with databaseUrl := asked.databaseUrl <|> url }

/-- The environment adds nothing else. -/
theorem read_of_environment {arguments : List String} {asked : Invocation}
    (h : read none arguments = .ok asked) (url : Option String) :
    read url arguments = .ok (asked.inEnvironment url) := by
  obtain ⟨before, name, rest, after, said, saidBefore, hbefore, hafter, hsaid, hfilter,
    hsaidBefore, rfl⟩ := read_eq_ok_iff.mp h
  refine read_eq_ok_iff.mpr ⟨before, name, rest, after, said, saidBefore, hbefore, hafter, hsaid,
    hfilter, hsaidBefore, ?_⟩
  simp only [ofGiven, inEnvironment]
  cases said.given.databaseUrl <;> cases saidBefore.given.databaseUrl <;> rfl

end Invocation

/-! ## The command line -/

/-- What the arguments say about the database. -/
def Invocation.layer (asked : Invocation) : Layer :=
  ⟨asked.databaseUrl, asked.dialect⟩

/-- The layers of settings, from the highest to the lowest. -/
def layers (s : Surroundings) (asked : Invocation) (stored : Config) : List Layer :=
  [asked.layer, s.layer, stored.layer]

section Settings

variable {s : Surroundings} {asked : Invocation} {stored : Config}
  (hstored : Config.ofFileInUse s = .ok stored)

include hstored

theorem load_cases :
    (∃ name, s.NamesUnknown name ∧ Config.load s = .error (Config.unknownDialect name)) ∨
    (∀ name, ¬ s.NamesUnknown name) ∧
      Config.load s = .ok (stored.overriddenBy [s.layer]) := by
  rw [Config.load_eq, hstored]
  exact stored.overrideByEnvironment_cases s

theorem load_eq_error_iff {e : Error} :
    Config.load s = .error e ↔ ∃ name, s.NamesUnknown name ∧ e = Config.unknownDialect name := by
  obtain ⟨name, hname, hload⟩ | ⟨hknown, hload⟩ := load_cases hstored
  · rw [hload]
    constructor
    · rintro ⟨⟩
      exact ⟨name, hname, rfl⟩
    · rintro ⟨other, hother, rfl⟩
      rw [Option.some.inj (hname.1.symm.trans hother.1)]
  · rw [hload]
    refine iff_of_false nofun ?_
    rintro ⟨name, hname, -⟩
    exact hknown name hname

variable (asked) in
theorem settings_eq (hknown : ∀ name, ¬ s.NamesUnknown name) :
    settings s (asked.inEnvironment (s.environment Config.urlVariable)) =
      .ok (stored.overriddenBy [asked.layer, s.layer]) := by
  obtain ⟨name, hname, -⟩ | ⟨-, hload⟩ := load_cases hstored
  · exact absurd hname (hknown name)
  · rw [settings, hload]
    exact congrArg Except.ok (stored.override_or asked.databaseUrl _ asked.dialect _)

end Settings

section Run

variable {δ η : Type} {s : Surroundings} (db : Database δ η) (i : Invocation)

theorem run_of_error (database : δ) (hjob : i.job ≠ .dialects) {e : Error}
    (h : settings s i = .error e) :
    outcomeOf (StateT.run (ExceptT.run (run s db i)) { database }) =
      ⟨1, [], some ("Error: " ++ ("Failed to load configuration: " ++ Program.describeError e)),
        database⟩ := by
  unfold run
  split
  · contradiction
  · rw [h]
    rfl

theorem run_of_ok (hjob : i.job ≠ .dialects) {config : Config} {path : String} {schema : Schema}
    (h : settings s i = .ok config) (hpath : i.schema = some path)
    (hschema : Schema.load s.files path = .ok schema) :
    run s db i = runOnSchema db i config schema := by
  unfold run
  split
  · contradiction
  · rw [h, hpath]
    show (Program.orFail _ (Schema.load s.files path) >>= _) = _
    rw [hschema]
    rfl

end Run

end CommandLine

open CommandLine

/-- **Layers of settings.** Take arguments that ask for something, and surroundings whose file of
    settings, if there is one, can be read. The layers are what the arguments say by themselves,
    what the environment says, whose dialect is the one with the name of its variable in any case,
    and what the file says.

    - The settings fail to load just if the environment names a dialect that there is not, and only
      with the error about that. Then every command that looks at settings ends with this error,
      whatever the arguments say.
    - Otherwise the URL and the dialect of the settings are those in force, and the identity field
      is the one of the file. The command compiles in that dialect.
    - Where a layer names a dialect and those above it do not, that is the one in force, whatever
      URLs there are. -/
theorem settings_of_layers {s : Surroundings} {arguments : List String} {asked : Invocation}
    {stored : Config} (hread : Invocation.read none arguments = .ok asked)
    (hstored : Config.ofFileInUse s = .ok stored) :
    let layers := layers s asked stored
    let url := Layer.url? layers
    let dialect := Layer.dialectOf layers
    (∀ d, s.layer.dialect = some d ↔
      ∃ name, s.environment Config.dialectVariable = some name ∧ Text.lower name = d.name) ∧
    (∀ e, Config.load s = .error e ↔
      ∃ name, s.NamesUnknown name ∧ e = Config.unknownDialect name) ∧
    (∀ name, s.NamesUnknown name → asked.job ≠ .dialects →
      ∀ {δ η : Type} (db : Database δ η) (database : δ),
        start s db arguments database =
          ⟨1, [], some ("Error: " ++ ("Failed to load configuration: " ++
            (Config.unknownDialect name).message)), database⟩) ∧
    ((∀ name, ¬ s.NamesUnknown name) →
      ∃ i config, Invocation.read (s.environment Config.urlVariable) arguments = .ok i ∧
        settings s i = .ok config ∧ config.url = url ∧ config.effectiveDialect = dialect ∧
        config.identity = stored.identity ∧
        ∀ {path : String} {schema : Schema}, asked.job ≠ .dialects → asked.schema = some path →
          Schema.load s.files path = .ok schema →
          ∀ {δ η : Type} (db : Database δ η) (database : δ),
            start s db arguments database =
              outcomeOf (StateT.run (ExceptT.run
                (runOnSchema db asked ⟨url, some dialect, stored.identity⟩ schema))
                { database })) ∧
    ∀ higher l lower d, layers = higher ++ l :: lower → (∀ h ∈ higher, h.dialect = none) →
      l.dialect = some d → dialect = d := by
  intro layers url dialect
  have hasked := Invocation.read_of_environment hread (s.environment Config.urlVariable)
  refine ⟨fun d => ?_, fun e => load_eq_error_iff hstored,
    fun name hname hjob δ η db database => ?_, fun hknown => ?_,
    fun higher l lower d hlayers hhigher hl => ?_⟩
  · simp only [Surroundings.layer, Option.bind_eq_some_iff, Dialect.ofAnyCase?_eq_some_iff]
  · have hload : Config.load s = .error (Config.unknownDialect name) :=
      (load_eq_error_iff hstored).mpr ⟨name, hname, rfl⟩
    have hsettings : settings s (asked.inEnvironment (s.environment Config.urlVariable)) =
        .error (Config.unknownDialect name) := by
      rw [settings, hload]
      rfl
    have hreport : Program.describeError (Config.unknownDialect name) =
        (Config.unknownDialect name).message := rfl
    have hrun := run_of_error db (asked.inEnvironment _) database hjob hsettings
    rw [hreport] at hrun
    rw [start, hasked]
    exact hrun
  · have hsettings := settings_eq asked hstored hknown
    have hurl := stored.url_overriddenBy [asked.layer, s.layer]
    have hdialect := stored.effectiveDialect_overriddenBy [asked.layer, s.layer]
    have hidentity := stored.identity_overriddenBy [asked.layer, s.layer]
    refine ⟨_, _, hasked, hsettings, hurl, hdialect, hidentity, ?_⟩
    intro path schema hjob hpath hschema δ η db database
    have hrun := run_of_ok db (asked.inEnvironment _) hjob hsettings hpath hschema
    rw [runOnSchema_of_effectiveDialect, hdialect, hidentity, hurl] at hrun
    rw [start, hasked]
    dsimp only
    rw [hrun]
    rfl
  · show Layer.dialectOf layers = d
    rw [hlayers, Layer.dialectOf_of_named hhigher hl]

/-- Surroundings with a file of settings and a variable that names another dialect than the file. -/
def Surroundings.divided : Surroundings where
  files := FileTree.read ⟨[(["sqlweave.toml"],
    some ("[database]\nurl = \"mysql://db/app\"\ndialect = \"oracle\"\n" ++
      "[compiler]\nidentity = \"Id\"\n"))]⟩
  environment name := if name = Config.dialectVariable then some "MsSQL" else none
  userDirectory := none

/-- The URL is the one of the arguments, the dialect the one of the environment, and the identity
    field the one of the file. -/
theorem settings_of_layers_divided :
    let s := Surroundings.divided
    let arguments := ["--schema", "s.toml", "--database-url", "sqlite::memory:", "select"]
    ∃ asked stored, Invocation.read none arguments = .ok asked ∧
      Config.ofFileInUse s = .ok stored ∧ (∀ name, ¬ s.NamesUnknown name) ∧
      ∃ i config, Invocation.read (s.environment Config.urlVariable) arguments = .ok i ∧
        settings s i = .ok config ∧ config.url = some "sqlite::memory:" ∧
        config.effectiveDialect = .msSql ∧ config.identity = some "Id" := by
  intro s arguments
  have hread : Invocation.read none arguments =
      .ok ⟨.select [] false, some "s.toml", none, some "sqlite::memory:", false, .table, false⟩ :=
    rfl
  have hstored : Config.ofFileInUse s = .ok ⟨some "mysql://db/app", some .oracle, some "Id"⟩ := by
    decide +kernel
  have hknown : ∀ name, ¬ s.NamesUnknown name := by
    rintro name ⟨hname, hunknown⟩
    obtain rfl : "MsSQL" = name := Option.some.inj hname
    exact hunknown .msSql (by decide)
  obtain ⟨-, -, -, hload, -⟩ := settings_of_layers hread hstored
  obtain ⟨i, config, hi, hsettings, hurl, hdialect, hidentity, -⟩ := hload hknown
  refine ⟨_, _, hread, hstored, hknown, i, config, hi, hsettings, hurl, ?_, hidentity⟩
  rw [hdialect]
  decide +kernel

end RecordSql
