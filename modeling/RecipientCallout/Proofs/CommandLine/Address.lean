import Mathlib.Tactic.Lemma
import Mathlib.Tactic.SplitIfs
import RecipientCallout.CommandLine.Parse
import RecipientCallout.Proofs.Steps
import RecipientCallout.Proofs.Text.Separators

/-!
# Where the address stands

How a command line is taken apart. `Reads` has one case for each argument that the options can begin
with, and agrees with the function that reads them (`readOptions_eq_ok_iff`); what holds of all command
lines is shown by induction on it.

There are two headlines. Behind options that make sense on their own, the first argument without a
hyphen is the address, and nothing behind it is looked at (`parse_options_address`). An argument with an
`@` is the address wherever one can stand, hyphens or not, unless it is the name of an option with an
equals sign and a value (`parse_hyphenated_address`): the option then has that value, and a flag takes none.
-/

namespace RecipientCallout.CommandLine
open RecipientCallout.Text

/-! ## Reading options -/

/-- How options are read: from a state and arguments to the state behind the options and the fields. -/
inductive Reads : State → List RawText → State → List RawText → Prop where
  | nil {s} :
    Reads s [] s []
  | terminator {s argument rest} :
    shape argument = .terminator →
    Reads s (argument :: rest) s rest
  | version {s s' t argument rest fields} :
    shape argument = .flag .version none →
    s.settle = .ok s' →
    s'.version = false →
    Reads { s' with version := true } rest t fields →
    Reads s (argument :: rest) t fields
  | assigned {s s' s'' t argument rest option value fields} :
    shape argument = .option option (some value) →
    s.settle = .ok s' →
    s'.assign option value = .ok s'' →
    Reads s'' rest t fields →
    Reads s (argument :: rest) t fields
  | named {s s' t argument rest option fields} :
    shape argument = .option option none →
    s.settle = .ok s' →
    Reads { s' with pending := some (option, none) } rest t fields →
    Reads s (argument :: rest) t fields
  | value {s t argument rest option fields} :
    shape argument = .plain →
    s.wantsValue = some option →
    Reads { s with pending := some (option, some argument) } rest t fields →
    Reads s (argument :: rest) t fields
  | address {s argument rest} :
    shape argument = .plain →
    s.wantsValue = none →
    Reads s (argument :: rest) s (argument :: rest)

/-- Options that are read without a fault are read in one of these ways. -/
lemma reads_of_readOptions {s arguments t fields} (read : readOptions s arguments = .ok (t, fields)) :
    Reads s arguments t fields := by
  fun_induction readOptions s arguments with
  | case1 => cases read; exact .nil
  | case2 _ _ _ shape => cases read; exact .terminator shape
  | case9 s _ _ shape s' settled new ih =>
    exact .version shape settled (Bool.eq_false_iff.mpr new) (ih read)
  | case12 _ _ _ _ _ shape _ settled _ assigned ih => exact .assigned shape settled assigned (ih read)
  | case14 _ _ _ _ shape _ settled ih => exact .named shape settled (ih read)
  | case15 _ _ _ shape _ wanted ih => exact .value shape wanted (ih read)
  | case16 _ _ _ shape unwanted => cases read; exact .address shape unwanted
  -- all other branches are faults
  | case3 | case4 | case5 | case6 | case7 | case8 | case10 | case11 | case13 => cases read

/-- The function that reads options agrees with the relation. -/
lemma readOptions_eq_ok_iff {s arguments t fields} :
    readOptions s arguments = .ok (t, fields) ↔ Reads s arguments t fields := by
  refine ⟨reads_of_readOptions, fun reads => ?_⟩
  induction reads with
  | nil => rfl
  | terminator shape => rw [readOptions, shape]
  | version shape settled new _ ih => simp only [readOptions, shape, settled, new, ih]; rfl
  | assigned shape settled assigned _ ih => simp only [readOptions, shape, settled, assigned, ih]
  | named shape settled _ ih => simp only [readOptions, shape, settled, ih]
  | value shape wanted _ ih => simp only [readOptions, shape, wanted, ih]
  | address shape unwanted => simp only [readOptions, shape, unwanted]

/-- The fields are the end of the arguments. -/
lemma Reads.suffix {s arguments t fields} (reads : Reads s arguments t fields) :
    fields <:+ arguments := by
  induction reads with
  | nil => exact List.suffix_rfl
  | terminator => exact List.suffix_cons _ _
  | version _ _ _ _ ih => exact ih.trans (List.suffix_cons _ _)
  | assigned _ _ _ _ ih => exact ih.trans (List.suffix_cons _ _)
  | named _ _ _ ih => exact ih.trans (List.suffix_cons _ _)
  | value _ _ _ ih => exact ih.trans (List.suffix_cons _ _)
  | address => exact List.suffix_rfl

/-- If all arguments are left over, the first of them is no option. -/
lemma Reads.plain_of_length {s argument rest t fields} (reads : Reads s (argument :: rest) t fields)
    (all : rest.length < fields.length) : shape argument = .plain := by
  cases reads with
  | terminator => exact absurd all (Nat.lt_irrefl _)
  | version _ _ _ reads => exact absurd reads.suffix.length_le (Nat.not_le.mpr all)
  | assigned _ _ _ reads => exact absurd reads.suffix.length_le (Nat.not_le.mpr all)
  | named _ _ reads => exact absurd reads.suffix.length_le (Nat.not_le.mpr all)
  | value shape => exact shape
  | address shape => exact shape

/-- An argument that is no option ends the options in front of it, unless one of them waits for a
value. -/
lemma Reads.append {s options t argument} (reads : Reads s options t []) (plain : shape argument = .plain)
    (unwanted : t.wantsValue = none) (rest : List RawText) :
    Reads s (options ++ argument :: rest) t (argument :: rest) := by
  -- by induction on how the options were read; only an argument of their own could leave fields over
  generalize none_left : [] = fields at reads
  induction reads with
  | nil => exact .address plain unwanted
  | terminator shape => subst none_left; exact .terminator shape
  | version shape settled new _ ih => exact .version shape settled new (ih unwanted none_left)
  | assigned shape settled assigned _ ih =>
    exact .assigned shape settled assigned (ih unwanted none_left)
  | named shape settled _ ih => exact .named shape settled (ih unwanted none_left)
  | value shape wanted _ ih => exact .value shape wanted (ih unwanted none_left)
  | address => cases none_left

/-- No option waits for a value where the options can be settled. -/
lemma wantsValue_of_settle {s t : State} (settled : s.settle = .ok t) : s.wantsValue = none := by
  unfold State.settle at settled
  unfold State.wantsValue
  split at settled
  case h_1 none_pending => rw [none_pending]
  case h_2 => cases settled
  case h_3 pending => rw [pending]

/-! ## Whole command lines -/

/-- A command line can be used if its options can be read and settled, its fields are text, and a
configuration file can be chosen. -/
lemma parse_eq_ok_iff {arguments environment a} :
    parse arguments environment = .ok a ↔
      ∃ t fields s, Reads {} arguments t fields ∧ t.settle = .ok s ∧
        fields.mapM RawText.text? = some a.fields ∧
        chooseConfig s.config environment = .ok a.config ∧
        s.version = a.version ∧ s.logLevel = a.logLevel := by
  constructor
  · intro parsed
    obtain ⟨⟨t, fields⟩, read, parsed⟩ := exists_of_bind_eq_ok parsed
    obtain ⟨s, settled, parsed⟩ := exists_of_bind_eq_ok parsed
    split at parsed
    case h_1 => cases parsed
    case h_2 texts undamaged =>
      obtain ⟨config, chosen, parsed⟩ := exists_of_bind_eq_ok parsed
      cases parsed
      exact ⟨t, fields, s, reads_of_readOptions read, settled, undamaged, chosen, rfl, rfl⟩
  · rintro ⟨t, fields, s, reads, settled, undamaged, chosen, version, logLevel⟩
    have read := readOptions_eq_ok_iff.mpr reads
    simp only [parse, read, settled, undamaged, chosen, version, logLevel, bind, Except.bind]
    rfl

/-- If the first argument is no option, all arguments are fields, and nothing else is set. -/
lemma parse_plain {argument : RawText} (plain : shape argument = .plain) (rest : List RawText)
    (environment : Option RawText) :
    parse (argument :: rest) environment =
      match (argument :: rest).mapM RawText.text? with
      | none => .error (.fault .notText)
      | some fields => (chooseConfig none environment).map fun config => ⟨false, config, none, fields⟩ := by
  have reads : Reads {} (argument :: rest) {} (argument :: rest) := .address plain rfl
  simp only [parse, readOptions_eq_ok_iff.mpr reads, State.settle, bind, Except.bind]
  cases (argument :: rest).mapM RawText.text? with
  | none => rfl
  | some fields => cases chooseConfig none environment <;> rfl

/-- Fields that are text are read as they are. -/
lemma mapM_text? (texts : List String) :
    (texts.map RawText.ofString).mapM RawText.text? = some texts := by
  induction texts with
  | nil => rfl
  | cons text texts ih => simp [List.mapM_cons, RawText.text?_ofString, ih]

/-- Fields are text if the first of them is and the others are. -/
lemma mapM_text?_cons_eq_some {field : RawText} {fields : List RawText} {texts : List String} :
    (field :: fields).mapM RawText.text? = some texts ↔
      ∃ text others, field.text? = some text ∧ fields.mapM RawText.text? = some others ∧
        text :: others = texts := by
  simp [List.mapM_cons, Option.bind_eq_some_iff]

/-- No field is lost when they are read. -/
lemma length_of_mapM_text? {fields : List RawText} {texts : List String}
    (undamaged : fields.mapM RawText.text? = some texts) : texts.length = fields.length := by
  induction fields generalizing texts with
  | nil => cases undamaged; rfl
  | cons field fields ih =>
    obtain ⟨text, others, -, rest, rfl⟩ := mapM_text?_cons_eq_some.mp undamaged
    rw [List.length_cons, List.length_cons, ih rest]

/-- An argument without a hyphen in front is no option. -/
lemma shape_of_head? {argument : RawText} (other : argument.head? ≠ some (.char '-')) :
    shape argument = .plain := by
  unfold shape
  split
  case h_4 => rfl
  all_goals exact absurd rfl other

/-- The first piece of a text is its first character. -/
lemma head?_ofString (s : String) : (RawText.ofString s).head? = s.toList.head?.map .char :=
  List.head?_map

/-- A text without a hyphen in front is no option. -/
lemma shape_ofString {s : String} (other : s.toList.head? ≠ some '-') :
    shape (RawText.ofString s) = .plain := by
  apply shape_of_head?
  rw [head?_ofString]
  intro head
  obtain ⟨c, head, e⟩ := Option.map_eq_some_iff.mp head
  cases e
  exact other head

/-- **Options, then the address.** If options make a command line on their own, then an argument behind
them that does not begin with a hyphen is the address, with all further arguments as its fields. Nothing
else changes; the version is asked for only where there is no address. -/
theorem parse_options_address {options : List String} {environment : Option RawText} {alone : Arguments}
    (parsed : parse (options.map .ofString) environment = .ok alone) (without : alone.fields = [])
    {address : String} (plain : address.toList.head? ≠ some '-') (context : List String) :
    let whole : Arguments := { alone with fields := address :: context }
    parse ((options ++ address :: context).map .ofString) environment = .ok whole ∧
      whole.invocation? = some (.verify address context) ∧
      (alone.invocation? = some .version ↔ alone.version = true) := by
  intro whole
  obtain ⟨t, fields, s, reads, settled, undamaged, chosen, version, logLevel⟩ :=
    parse_eq_ok_iff.mp parsed
  have none_left : fields = [] := by
    rw [without] at undamaged
    exact List.eq_nil_of_length_eq_zero (length_of_mapM_text? undamaged).symm
  subst none_left
  have reads := reads.append (shape_ofString plain) (wantsValue_of_settle settled)
    (context.map .ofString)
  refine ⟨?_, rfl, ?_⟩
  · rw [List.map_append, List.map_cons]
    exact parse_eq_ok_iff.mpr
      ⟨t, _, s, reads, settled, mapM_text? (address :: context), chosen, version, logLevel⟩
  · rw [Arguments.invocation?, without]
    cases alone.version <;> simp

/-- An option with its value, a version flag and two hyphens, before an address that the relay adds
what looks like options to. -/
theorem parse_options_address_terminated :
    let alone : Arguments := ⟨true, .ofString "c", none, []⟩
    let options := ["--version", "--config", "c", "--"]
    parse (options.map .ofString) none = .ok alone ∧
      parse ((options ++ ["jane@d.example", "--help", "--"]).map .ofString) none =
        .ok ⟨true, .ofString "c", none, ["jane@d.example", "--help", "--"]⟩ := by
  intro alone options
  have parsed : parse (options.map .ofString) none = .ok alone := by rfl
  exact ⟨parsed, (parse_options_address parsed rfl (by decide) ["--help", "--"]).1⟩

/-! ## Arguments that name an option -/

/-- The names of all flags and options. -/
def optionNames : List String :=
  [Flag.version.name, Flag.help.name, ValueOption.config.name, ValueOption.logLevel.name]

/-- The argument that gives a value to the flag or the option of a name. -/
def giving (name value : String) : String := "--" ++ name ++ "=" ++ value

/-- Whether an argument gives a value to a flag or an option. -/
def Assigns (argument : String) : Prop :=
  (∃ (flag : Flag) (value : String), argument = giving flag.name value) ∨
    ∃ (option : ValueOption) (value : String), argument = giving option.name value

/-- A flag is known by its name. -/
lemma mem_optionNames_flag (flag : Flag) : flag.name ∈ optionNames := by
  cases flag <;> decide

/-- An option is known by its name. -/
lemma mem_optionNames_option (option : ValueOption) : option.name ∈ optionNames := by
  cases option <;> decide

/-- The parts of an argument that gives a value. -/
lemma toList_giving (name value : String) :
    (giving name value).toList = '-' :: '-' :: (name.toList ++ '=' :: value.toList) := by
  simp [giving]

/-- An argument gives a value if it begins with two hyphens, a known name and an equals sign. -/
lemma assigns_iff {argument : String} :
    Assigns argument ↔ ∃ name ∈ optionNames, '-' :: '-' :: name.toList ++ ['='] <+: argument.toList := by
  have begins (name value : String) : '-' :: '-' :: name.toList ++ ['='] <+: (giving name value).toList :=
    ⟨value.toList, by simp [toList_giving]⟩
  constructor
  · rintro (⟨flag, value, rfl⟩ | ⟨option, value, rfl⟩)
    · exact ⟨_, mem_optionNames_flag flag, begins _ _⟩
    · exact ⟨_, mem_optionNames_option option, begins _ _⟩
  · rintro ⟨name, known, value, e⟩
    have gives : argument = giving name (String.ofList value) := by
      rw [← String.toList_inj, toList_giving, ← e]
      simp
    simp only [optionNames, List.mem_cons, List.not_mem_nil, or_false] at known
    obtain rfl | rfl | rfl | rfl := known
    · exact .inl ⟨.version, _, gives⟩
    · exact .inl ⟨.help, _, gives⟩
    · exact .inr ⟨.config, _, gives⟩
    · exact .inr ⟨.logLevel, _, gives⟩

/-- No known name holds an `@` or an equals sign. -/
lemma notMem_of_mem_optionNames {name : String} (known : name ∈ optionNames) :
    '@' ∉ name.toList ∧ '=' ∉ name.toList := by
  revert name
  decide

/-- Behind two hyphens, a name is plain exactly if it is unknown. -/
lemma longShape_eq_plain_iff {name : String} {value : Option RawText} :
    longShape (RawText.ofString name) value = .plain ↔ name ∉ optionNames := by
  simp only [longShape, RawText.text?_ofString, optionNames, List.mem_cons, List.not_mem_nil, or_false,
    not_or]
  split_ifs <;> simp_all

/-- The shape of two hyphens and more is that of the name behind them. -/
lemma shape_long {s : String} {c : Char} {cs : List Char} (e : s.toList = '-' :: '-' :: c :: cs) :
    ∃ value, shape (RawText.ofString s) =
      longShape (RawText.ofString (String.ofList ((c :: cs).takeWhile (· ≠ '=')))) value := by
  have name : ((c :: cs).map Piece.char).takeWhile (· ≠ equals) =
      RawText.ofString (String.ofList ((c :: cs).takeWhile (· ≠ '='))) := by
    rw [RawText.ofString, String.toList_ofList, List.takeWhile_map]
    congr 2
    funext d
    simp [equals]
  rw [← name]
  exact ⟨_, by rw [RawText.ofString, e]; rfl⟩

/-- What stands before the first equals sign is a name exactly if the name and an equals sign come
first. The `@` behind the name is what an equals sign is needed for. -/
lemma takeWhile_eq_iff {name cs : List Char} (separator : '@' ∈ cs) (others : '@' ∉ name ∧ '=' ∉ name) :
    cs.takeWhile (· ≠ '=') = name ↔ name ++ ['='] <+: cs := by
  constructor
  · rintro rfl
    cases rest : cs.dropWhile (· ≠ '=') with
    | nil =>
      have all := List.takeWhile_append_dropWhile (p := (· ≠ '=')) (l := cs)
      rw [rest, List.append_nil] at all
      rw [all] at others
      exact absurd separator others.1
    | cons d value =>
      have stop : d = '=' := by
        have first := List.head_dropWhile_not (l := cs) (· ≠ '=') (by rw [rest]; nofun)
        simp only [rest, List.head_cons] at first
        simpa using first
      rw [stop] at rest
      refine ⟨value, ?_⟩
      rw [List.append_assoc, List.singleton_append, ← rest, List.takeWhile_append_dropWhile]
  · rintro ⟨value, rfl⟩
    have all : ∀ d ∈ name, (d ≠ '=') := fun d mem e => others.2 (e ▸ mem)
    rw [List.append_assoc, List.takeWhile_append_of_pos (by simpa using all)]
    simp

/-- A single hyphen makes no option of an argument with an `@`. -/
lemma shape_short {s : String} (separator : '@' ∈ s.toList) (short : ¬ ['-', '-'] <+: s.toList) :
    shape (RawText.ofString s) = .plain := by
  have separator : Piece.char '@' ∈ RawText.ofString s := List.mem_map_of_mem separator
  have short (rest) (e : RawText.ofString s = .char '-' :: .char '-' :: rest) : False := by
    obtain ⟨c, cs, e, hyphen, others⟩ := List.map_eq_cons_iff.mp e
    obtain ⟨d, ds, rfl, hyphen', -⟩ := List.map_eq_cons_iff.mp others
    cases hyphen
    cases hyphen'
    exact short ⟨ds, e.symm⟩
  unfold shape
  split
  case h_1 e => exact (short _ e).elim
  case h_2 e => exact (short _ e).elim
  case h_3 c rest _ e =>
    -- the help flag has only one letter
    rw [e, List.mem_cons] at separator
    refine if_neg fun all => ?_
    have letter := List.all_eq_true.mp all _ (separator.resolve_left (by decide))
    exact absurd (of_decide_eq_true letter) (by decide)
  case h_4 => rfl

/-- An argument with an `@` is an option exactly if it gives one a value. -/
lemma shape_eq_plain_iff {s : String} (separator : '@' ∈ s.toList) :
    shape (RawText.ofString s) = .plain ↔ ¬ Assigns s := by
  by_cases long : ['-', '-'] <+: s.toList
  case neg =>
    refine iff_of_true (shape_short separator long) ?_
    rw [assigns_iff]
    rintro ⟨name, -, assigns⟩
    exact long (List.IsPrefix.trans ⟨name.toList ++ ['='], rfl⟩ assigns)
  case pos =>
    obtain ⟨behind, e⟩ := long
    rw [← e] at separator
    match behind, e with
    | [], _ => exact absurd separator (by decide)
    | c :: cs, e =>
      obtain ⟨value, long⟩ := shape_long e.symm
      have separator : '@' ∈ c :: cs := by simpa using separator
      rw [long, longShape_eq_plain_iff, assigns_iff, ← e]
      refine not_congr ⟨fun known => ⟨_, known, ?_⟩, ?_⟩
      · have others := notMem_of_mem_optionNames known
        rw [String.toList_ofList] at others ⊢
        obtain ⟨rest, e⟩ := (takeWhile_eq_iff separator others).mp rfl
        exact ⟨rest, congrArg (fun behind => '-' :: '-' :: behind) e⟩
      · rintro ⟨name, known, rest, e⟩
        have first : name.toList ++ ['='] <+: c :: cs := ⟨rest, (List.append_right_inj ['-', '-']).mp e⟩
        rw [(takeWhile_eq_iff separator (notMem_of_mem_optionNames known)).mpr first, String.ofList_toList]
        exact known

/-- A verification has its address and context from the fields. -/
lemma fields_of_invocation? {a : Arguments} {address context}
    (verifies : a.invocation? = some (.verify address context)) : a.fields = address :: context := by
  unfold Arguments.invocation? at verifies
  split at verifies
  case h_1 fields => cases verifies; exact fields
  case h_2 => split at verifies <;> cases verifies

/-- A file can be chosen without the option unless the environment names an empty path. -/
lemma exists_chooseConfig {environment : Option RawText} (named : environment ≠ some []) :
    ∃ config, chooseConfig none environment = .ok config := by
  unfold chooseConfig
  cases environment with
  | none => exact ⟨_, rfl⟩
  | some path => exact ⟨path, if_neg fun e => named (congrArg some e)⟩

/-! ## Arguments that give a value -/

/-- What a command line says if it also gives a value to an option. -/
def Arguments.assign (a : Arguments) (option : ValueOption) (value : String) : Arguments :=
  match option with
  | .config => { a with config := .ofString value }
  | .logLevel => { a with logLevel := some value }

/-- Whether a command line gives this value to an option: doing so changes nothing. -/
def Arguments.Has (a : Arguments) (option : ValueOption) (value : String) : Prop :=
  a.assign option value = a

/-- Whether an option has been given this value. -/
def State.Has (s : State) : ValueOption → String → Prop
  | .config, value => s.config = some (.ofString value)
  | .logLevel, value => s.logLevel = some value

/-- A text has no damaged place to replace. -/
lemma lossy_ofString (s : String) : (RawText.ofString s).lossy = s := by
  rw [RawText.lossy, RawText.ofString, List.map_map]
  exact (congrArg String.ofList (List.map_id _)).trans String.ofList_toList

/-- An argument that gives a value has the name and the value as they are. -/
lemma shape_giving {name : String} (known : name ∈ optionNames) (value : String) :
    shape (.ofString (giving name value)) = longShape (.ofString name) (some (.ofString value)) := by
  have e : RawText.ofString (giving name value) =
      .char '-' :: .char '-' :: (RawText.ofString name ++ equals :: RawText.ofString value) := by
    simp [RawText.ofString, toList_giving, equals]
  have plain : equals ∉ RawText.ofString name := by
    rw [RawText.ofString, equals, List.mem_map]
    rintro ⟨c, mem, e⟩
    cases e
    exact (notMem_of_mem_optionNames known).2 mem
  have long (rest : RawText) (ne : rest ≠ []) : shape (.char '-' :: .char '-' :: rest) =
      longShape (rest.takeWhile (· ≠ equals)) (rest.dropWhile (· ≠ equals)).tail? := by
    cases rest with
    | nil => exact absurd rfl ne
    | cons => rfl
  rw [e, long _ (by simp), takeWhile_separated plain, dropWhile_separated plain, List.tail?_cons]

/-- An argument that gives a value to a flag is seen as that. -/
lemma shape_giving_flag (flag : Flag) (value : String) :
    shape (.ofString (giving flag.name value)) = .flag flag (some (.ofString value)) := by
  rw [shape_giving (mem_optionNames_flag flag), longShape, RawText.text?_ofString]
  cases flag <;> rfl

/-- An argument that gives a value to an option is seen as that. -/
lemma shape_giving_option (option : ValueOption) (value : String) :
    shape (.ofString (giving option.name value)) = .option option (some (.ofString value)) := by
  rw [shape_giving (mem_optionNames_option option), longShape, RawText.text?_ofString]
  cases option <;> rfl

/-- A flag takes no value. -/
lemma parse_giving_flag (flag : Flag) (value : String) (rest : List RawText) (environment : Option RawText) :
    parse (.ofString (giving flag.name value) :: rest) environment =
      .error (.fault (.unexpectedValue value flag)) := by
  simp only [parse, readOptions, shape_giving_flag, lossy_ofString]
  rfl

/-- The ways in which an option can get a value, which it has not had before. -/
lemma State.assign_cases {s s' : State} {option : ValueOption} {given : RawText}
    (assigned : s.assign option given = .ok s') :
    (s.config = none ∧ option = .config ∧ s' = { s with config := some given }) ∨
      ∃ text, s.logLevel = none ∧ option = .logLevel ∧ s' = { s with logLevel := some text } := by
  unfold State.assign at assigned
  cases option with
  | config =>
    split at assigned
    case h_2 e => cases e
    split_ifs at assigned with given_before
    cases assigned
    exact .inl ⟨by simpa using given_before, rfl, rfl⟩
  | logLevel =>
    split at assigned
    case h_1 e => cases e
    split_ifs at assigned with given_before
    cases read : given.text? with
    | none => rw [read] at assigned; cases assigned
    | some text =>
      rw [read] at assigned
      cases assigned
      exact .inr ⟨text, by simpa using given_before, rfl, rfl⟩

section
variable {s s' t : State} {option : ValueOption} {value : String}

/-- The values of options are all that counts for this. -/
lemma State.Has.congr (has : s.Has option value) (config : s'.config = s.config)
    (logLevel : s'.logLevel = s.logLevel) : s'.Has option value := by
  cases option with
  | config => exact config.trans has
  | logLevel => exact logLevel.trans has

/-- An option that has a value keeps it, as it takes no other. -/
lemma State.Has.assign {other : ValueOption} {given : RawText} (has : s.Has option value)
    (assigned : s.assign other given = .ok s') : s'.Has option value := by
  obtain ⟨unset, -, rfl⟩ | ⟨text, unset, -, rfl⟩ := State.assign_cases assigned
  · cases option with
    | config => cases unset.symm.trans has
    | logLevel => exact has
  · cases option with
    | config => exact has
    | logLevel => cases unset.symm.trans has

/-- An option keeps its value when another one is settled. -/
lemma State.Has.settle (has : s.Has option value) (settled : s.settle = .ok s') : s'.Has option value := by
  unfold State.settle at settled
  split at settled
  case h_1 => cases settled; exact has
  case h_2 => cases settled
  case h_3 =>
    have has : State.Has { s with pending := none } option value := has.congr rfl rfl
    exact has.assign settled

/-- No argument takes a value away. -/
lemma Reads.has {arguments fields} (reads : Reads s arguments t fields) (has : s.Has option value) :
    t.Has option value := by
  induction reads with
  | nil => exact has
  | terminator => exact has
  | version _ settled _ _ ih => exact ih ((has.settle settled).congr rfl rfl)
  | assigned _ settled assigned _ ih => exact ih ((has.settle settled).assign assigned)
  | named _ settled _ ih => exact ih ((has.settle settled).congr rfl rfl)
  | value _ _ _ ih => exact ih (has.congr rfl rfl)
  | address => exact has

/-- An argument that gives a value to an option is taken for it at once. -/
lemma Reads.of_giving {argument rest fields} {given : RawText}
    (gives : shape argument = .option option (some given)) (reads : Reads s (argument :: rest) t fields) :
    ∃ s' s'', s.settle = .ok s' ∧ s'.assign option given = .ok s'' ∧ Reads s'' rest t fields := by
  cases reads with
  | terminator shape => cases shape.symm.trans gives
  | version shape => cases shape.symm.trans gives
  | assigned shape settled assigned reads =>
    cases shape.symm.trans gives
    exact ⟨_, _, settled, assigned, reads⟩
  | named shape => cases shape.symm.trans gives
  | value shape => cases shape.symm.trans gives
  | address shape => cases shape.symm.trans gives

/-- The state in which just one option has been given a value. -/
def State.giving (option : ValueOption) (value : String) : State :=
  match option with
  | .config => { config := some (.ofString value) }
  | .logLevel => { logLevel := some value }

/-- An option takes a first value that is not empty. -/
lemma assign_giving (filled : value ≠ "") :
    ({} : State).assign option (.ofString value) = .ok (.giving option value) := by
  cases option with
  | config =>
    have filled : RawText.ofString value ≠ [] := by
      rw [RawText.ofString, Ne, List.map_eq_nil_iff, String.toList_eq_nil_iff]
      exact filled
    simp [State.assign, State.giving, filled]
  | logLevel => simp [State.assign, State.giving, RawText.text?_ofString]

/-- The option that has just been given a value has it. -/
lemma has_giving (option : ValueOption) (value : String) : (State.giving option value).Has option value := by
  cases option <;> rfl

end

/-- An option with its value in front changes nothing but that option, unless an option follows. -/
lemma parse_giving_option {option : ValueOption} {value : String} (filled : value ≠ "") {context : List String}
    (plain : ∀ next ∈ context.head?, next.toList.head? ≠ some '-') {environment : Option RawText}
    {config : RawText} (chosen : chooseConfig none environment = .ok config) :
    parse ((giving option.name value :: context).map .ofString) environment =
      .ok ((⟨false, config, none, context⟩ : Arguments).assign option value) := by
  have rest : Reads (.giving option value) (context.map .ofString) (.giving option value)
      (context.map .ofString) := by
    cases context with
    | nil => exact .nil
    | cons next context =>
      refine .address (shape_ofString (plain next rfl)) ?_
      cases option <;> rfl
  have reads := Reads.assigned (shape_giving_option option value) (rfl : ({} : State).settle = .ok {})
    (assign_giving filled) rest
  have settled : (State.giving option value).settle = .ok (.giving option value) := by cases option <;> rfl
  refine parse_eq_ok_iff.mpr ⟨_, _, _, reads, settled, ?_⟩
  cases option with
  | config => exact ⟨mapM_text? context, rfl, rfl, rfl⟩
  | logLevel => exact ⟨mapM_text? context, chosen, rfl, rfl⟩

/-- Behind an argument that gives a value to an option, the option keeps it, and the fields begin later. -/
lemma has_of_parse_giving {option : ValueOption} {value : String} {context : List String}
    {environment : Option RawText} {whole : Arguments} (filled : value ≠ "")
    (parsed : parse ((giving option.name value :: context).map .ofString) environment = .ok whole) :
    whole.Has option value ∧ whole.fields <:+ context := by
  obtain ⟨t, fields, s, reads, settled, undamaged, chosen, version, logLevel⟩ := parse_eq_ok_iff.mp parsed
  obtain ⟨_, _, settled', assigned, reads⟩ := reads.of_giving (shape_giving_option option value)
  cases settled'
  cases assigned.symm.trans (assign_giving filled)
  constructor
  · have has := (reads.has (has_giving option value)).settle settled
    cases option with
    | config =>
      have has : s.config = some (.ofString value) := has
      have chosen' : RawText.ofString value = whole.config := by
        rw [has] at chosen
        exact Except.ok.inj chosen
      rw [Arguments.Has, Arguments.assign, chosen']
    | logLevel =>
      have has : s.logLevel = some value := has
      rw [Arguments.Has, Arguments.assign, ← has, logLevel]
  · obtain ⟨earlier, e⟩ := reads.suffix
    obtain ⟨before, behind, rfl, -, rfl⟩ := List.map_eq_append_iff.mp e.symm
    rw [mapM_text?] at undamaged
    cases undamaged
    exact List.suffix_append before _

/-- **The address, hyphens or not.** Where the environment lets a command line without arguments be read,
an argument with an `@` in front of all others is the address, and the others are its fields, unless it
gives a value to a flag or an option; nothing else differs from the command line without arguments. A value
for a flag is a fault. A value for an option is what the option has, and the address can only come later:
nothing else differs if the next argument begins with no hyphen, and that is then the address. -/
theorem parse_hyphenated_address {address : String} (separator : '@' ∈ address.toList)
    (context : List String) {environment : Option RawText} (named : environment ≠ some []) :
    let parsed := parse ((address :: context).map .ofString) environment
    ∃ config, parse [] environment = .ok ⟨false, config, none, []⟩ ∧
      (¬ Assigns address → parsed = .ok ⟨false, config, none, address :: context⟩) ∧
      (∀ flag value, address = giving (Flag.name flag) value →
        parsed = .error (.fault (.unexpectedValue value flag))) ∧
      (∀ option value, address = giving (ValueOption.name option) value →
        ((∀ next ∈ context.head?, next.toList.head? ≠ some '-') →
          parsed = .ok ((⟨false, config, none, context⟩ : Arguments).assign option value)) ∧
        ∀ whole, parsed = .ok whole → whole.Has option value ∧ whole.fields <:+ context) ∧
      ∀ whole, parsed = .ok whole →
        (whole.invocation? = some (.verify address context) ↔ ¬ Assigns address) := by
  intro parsed
  obtain ⟨config, chosen⟩ := exists_chooseConfig named
  have unassigned (plain : ¬ Assigns address) :
      parsed = .ok ⟨false, config, none, address :: context⟩ := by
    simp only [parsed]
    rw [List.map_cons, parse_plain ((shape_eq_plain_iff separator).mpr plain), ← List.map_cons,
      mapM_text?, chosen]
    rfl
  refine ⟨config, ?_, unassigned, ?_, ?_, fun whole read => ⟨fun verifies => ?_, fun plain => ?_⟩⟩
  · exact parse_eq_ok_iff.mpr ⟨{}, [], {}, .nil, rfl, rfl, chosen, rfl, rfl⟩
  · rintro flag value rfl
    exact parse_giving_flag flag value (context.map .ofString) environment
  · rintro option value rfl
    -- the separator is in the value, as there is none in the name
    have filled : value ≠ "" := by
      rintro rfl
      have others := notMem_of_mem_optionNames (mem_optionNames_option option)
      rw [toList_giving] at separator
      simp [others] at separator
    exact ⟨fun plain => parse_giving_option filled plain chosen,
      fun whole read => has_of_parse_giving filled read⟩
  · -- all arguments are left over as fields, so that the first of them was no option
    obtain ⟨t, fields, s, reads, -, undamaged, -⟩ := parse_eq_ok_iff.mp read
    have count := length_of_mapM_text? undamaged
    rw [fields_of_invocation? verifies, List.length_cons] at count
    rw [← shape_eq_plain_iff separator]
    refine reads.plain_of_length ?_
    rw [← count, List.length_map]
    exact Nat.lt_succ_self _
  · rw [unassigned plain] at read
    cases read
    rfl

/-- An address with a hyphen in front and an option behind it, an option with its value before an address, and
a flag with a value. -/
theorem parse_hyphenated_address_bob :
    let environment := some (RawText.ofString "c")
    parse (["--bob@d.example", "--version"].map .ofString) environment =
      .ok ⟨false, .ofString "c", none, ["--bob@d.example", "--version"]⟩ ∧
    parse (["--log-level=@d.example", "jane@d.example"].map .ofString) environment =
      .ok ⟨false, .ofString "c", some "@d.example", ["jane@d.example"]⟩ ∧
    parse (["--version=@", "jane@d.example"].map .ofString) environment =
      .error (.fault (.unexpectedValue "@" .version)) := by
  intro environment
  have named : environment ≠ some [] := by decide
  have chosen : parse [] environment = .ok ⟨false, .ofString "c", none, []⟩ := by rfl
  refine ⟨?_, ?_, ?_⟩
  · have plain : ¬ Assigns "--bob@d.example" := by rw [assigns_iff]; decide
    have separator : '@' ∈ "--bob@d.example".toList := by decide
    obtain ⟨config, bare, whole, -⟩ := parse_hyphenated_address separator ["--version"] named
    cases chosen.symm.trans bare
    exact whole plain
  · have separator : '@' ∈ "--log-level=@d.example".toList := by decide
    obtain ⟨config, bare, -, -, valued, -⟩ :=
      parse_hyphenated_address separator ["jane@d.example"] named
    cases chosen.symm.trans bare
    exact (valued .logLevel "@d.example" (by rfl)).1 (by decide)
  · have separator : '@' ∈ "--version=@".toList := by decide
    obtain ⟨config, -, -, fault, -⟩ := parse_hyphenated_address separator ["jane@d.example"] named
    exact fault .version "@" (by rfl)

/-- Not every argument with a hyphen in front and an `@` is an address: `--config=@` names a file. -/
theorem config_of_hyphenated_address :
    ¬ ∀ (address : String) (context : List String),
      address.toList.head? = some '-' → '@' ∈ address.toList →
      ∃ whole, parse ((address :: context).map .ofString) none = .ok whole ∧
        whole.invocation? = some (.verify address context) := by
  intro claim
  obtain ⟨whole, parsed, verifies⟩ := claim "--config=@" [] (by decide) (by decide)
  have read : parse (["--config=@"].map .ofString) none = .ok ⟨false, .ofString "@", none, []⟩ := by rfl
  rw [read] at parsed
  cases parsed
  cases verifies

end RecipientCallout.CommandLine
