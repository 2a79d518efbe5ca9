import CodeReading.Command.Arguments
import CodeReading.Proofs.Outcome

set_option autoImplicit false

namespace CodeReading.Command

/-- One thing that a command line says: an option with its value, or an argument that is none. -/
inductive Setting where
  | option (shape : OptionShape) (value : String)
  | operand (text : String)

def Setting.Fits (shapes : List OptionShape) : Setting → Prop
  | .option shape value =>
    shape ∈ shapes ∧ (shape.operand ≠ .nothing → shape.operand.accepts value = true)
  | .operand _ => True

def Reading.take (reading : Reading) : Setting → Except Refusal Reading
  | .option shape value => reading.setOption shape value
  | .operand text => reading.addOperand text

/-- Whether a part of a command line amounts to some settings, and then waits for the value of an
    option. -/
structure ReadsAs (shapes : List OptionShape) (read : Reading → Except Refusal Pending)
    (settings : List Setting) (option : Option OptionShape) : Prop where
  fits : ∀ setting ∈ settings, setting.Fits shapes
  known : ∀ shape, option = some shape → shape ∈ shapes
  reads : ∀ reading,
    read reading = (settings.foldlM Reading.take reading).map fun result => ⟨result, option⟩

variable {shapes : List OptionShape} {versioned : Bool} {reading result : Reading}
  {pending : Pending}

theorem setValue_eq_ok {shape : OptionShape} {value : String}
    (h : reading.setValue shape value = .ok result) : shape.operand.accepts value = true := by
  unfold Reading.setValue at h
  split at h
  · assumption
  · cases h

theorem setValue_of_accepts {shape : OptionShape} {value : String}
    (accepts : shape.operand.accepts value = true) (reading : Reading) :
    reading.setValue shape value = reading.setOption shape value :=
  if_pos accepts

theorem readsAs_nil {option : Option OptionShape}
    (known : ∀ shape, option = some shape → shape ∈ shapes) :
    ReadsAs shapes (fun reading => .ok ⟨reading, option⟩) [] option :=
  ⟨nofun, known, fun _ => rfl⟩

theorem readsAs_flag {shape : OptionShape} (mem : shape ∈ shapes)
    (flag : shape.operand = .nothing) {rest : Reading → Except Refusal Pending}
    {settings : List Setting} {option : Option OptionShape}
    (h : ReadsAs shapes rest settings option) :
    ReadsAs shapes (fun reading => reading.setOption shape "" >>= rest)
      (.option shape "" :: settings) option := by
  refine ⟨?_, h.known, ?_⟩
  · rintro setting (_ | ⟨_, later⟩)
    · exact ⟨mem, fun takes => absurd flag takes⟩
    · exact h.fits setting later
  · intro reading
    rw [List.foldlM_cons]
    change reading.setOption shape "" >>= rest = Except.map _ (reading.setOption shape "" >>= _)
    cases reading.setOption shape "" with
    | error refusal => rfl
    | ok next => exact h.reads next

theorem readsAs_value {shape : OptionShape} {value : String} (mem : shape ∈ shapes)
    (accepts : shape.operand.accepts value = true) :
    ReadsAs shapes (fun reading => do return ⟨← reading.setValue shape value, none⟩)
      [.option shape value] none := by
  refine ⟨?_, nofun, ?_⟩
  · rintro setting (_ | ⟨_, later⟩)
    · exact ⟨mem, fun _ => accepts⟩
    · cases later
  · intro reading
    rw [setValue_of_accepts accepts, List.foldlM_cons]
    change _ = Except.map _ (reading.setOption shape value >>= _)
    cases reading.setOption shape value <;> rfl

theorem exists_readsAs_readCluster {text : List Char}
    (h : readCluster shapes versioned reading text = .ok pending) :
    ∃ settings, ReadsAs shapes (readCluster shapes versioned · text) settings pending.option := by
  induction text generalizing reading with
  | nil =>
    cases h
    exact ⟨[], readsAs_nil nofun⟩
  | cons c rest ih =>
    cases found : shapes.find? fun shape => shape.short = some c with
    | none =>
      simp only [readCluster, found] at h
      split at h
      · cases h
      · split at h <;> cases h
    | some shape =>
      have mem : shape ∈ shapes := List.mem_of_find?_eq_some found
      simp only [readCluster, found] at h ⊢
      by_cases flag : shape.operand = .nothing
      · simp only [if_pos flag] at h ⊢
        obtain ⟨next, -, later⟩ := bind_eq_ok_iff.1 h
        obtain ⟨settings, reads⟩ := ih later
        exact ⟨_, readsAs_flag mem flag reads⟩
      · simp only [if_neg flag] at h ⊢
        split at h
        · cases h
          refine ⟨[], readsAs_nil ?_⟩
          simpa using mem
        all_goals
          obtain ⟨next, set, eq⟩ := bind_eq_ok_iff.1 h
          cases eq
          exact ⟨_, readsAs_value mem (setValue_eq_ok set)⟩

theorem exists_readsAs_readLong {name : List Char} {value : Option String}
    (h : readLong shapes versioned reading name value = .ok pending) :
    ∃ settings, ReadsAs shapes (readLong shapes versioned · name value) settings
      pending.option := by
  cases found : shapes.find? fun shape => shape.long.toList = name with
  | none =>
    simp only [readLong, found] at h
    split at h
    · cases h
    · split at h <;> cases h
  | some shape =>
    have mem : shape ∈ shapes := List.mem_of_find?_eq_some found
    simp only [readLong, found] at h ⊢
    cases operand : shape.operand with
    | nothing =>
      cases value with
      | none =>
        simp only [operand] at h ⊢
        obtain ⟨next, -, eq⟩ := bind_eq_ok_iff.1 h
        cases eq
        exact ⟨_, readsAs_flag mem operand (readsAs_nil nofun)⟩
      | some value =>
        simp only [operand] at h
        cases h
    | path | count =>
      cases value with
      | none =>
        simp only [operand] at h ⊢
        cases h
        refine ⟨[], readsAs_nil ?_⟩
        simpa using mem
      | some value =>
        simp only [operand] at h ⊢
        obtain ⟨next, set, eq⟩ := bind_eq_ok_iff.1 h
        cases eq
        exact ⟨_, readsAs_value mem (setValue_eq_ok set)⟩

theorem exists_readsAs_readDashed {text : List Char}
    (h : readDashed shapes versioned reading text = .ok pending) :
    ∃ settings, ReadsAs shapes (readDashed shapes versioned · text) settings pending.option := by
  unfold readDashed at h ⊢
  split at h
  · exact exists_readsAs_readLong h
  · exact exists_readsAs_readCluster h

/-- Whether the arguments of an action amount to some settings, whatever was read before, where an
    option may wait for its value. -/
structure AmountsTo (shapes : List OptionShape) (option : Option OptionShape)
    (arguments : List String) (settings : List Setting) : Prop where
  fits : ∀ setting ∈ settings, setting.Fits shapes
  reads : ∀ reading,
    readArguments shapes ⟨reading, option⟩ arguments = settings.foldlM Reading.take reading

section
variable {argument : String} {arguments : List String} {settings : List Setting}

theorem amountsTo_nil : AmountsTo shapes none [] [] :=
  ⟨nofun, fun _ => rfl⟩

theorem amountsTo_value {shape : OptionShape} (mem : shape ∈ shapes)
    (plain : ¬isDashed argument = true) (accepts : shape.operand.accepts argument = true)
    (later : AmountsTo shapes none arguments settings) :
    AmountsTo shapes (some shape) (argument :: arguments) (.option shape argument :: settings) where
  fits := List.forall_mem_cons.2 ⟨⟨mem, fun _ => accepts⟩, later.fits⟩
  reads reading := by
    simp only [readArguments, if_neg plain]
    rw [setValue_of_accepts accepts, List.foldlM_cons]
    exact bind_congr later.reads

theorem amountsTo_operands : AmountsTo shapes none ("--" :: arguments) (arguments.map .operand) where
  fits setting mem := by
    obtain ⟨text, -, rfl⟩ := List.mem_map.1 mem
    trivial
  reads reading := by
    simp only [readArguments, if_true]
    rw [List.foldlM_map]
    rfl

theorem amountsTo_dashed {option : Option OptionShape} {first : List Setting}
    (more : argument ≠ "--") (dashed : isDashed argument = true)
    (reads : ReadsAs shapes (readDashed shapes false · (argument.toList.drop 1)) first option)
    (later : AmountsTo shapes option arguments settings) :
    AmountsTo shapes none (argument :: arguments) (first ++ settings) where
  fits setting mem := (List.mem_append.1 mem).elim (reads.fits setting) (later.fits setting)
  reads reading := by
    simp only [readArguments, if_neg more, if_pos dashed]
    rw [reads.reads reading, List.foldlM_append]
    cases first.foldlM Reading.take reading with
    | error refusal => rfl
    | ok next => exact later.reads next

theorem amountsTo_operand (more : argument ≠ "--") (plain : ¬isDashed argument = true)
    (later : AmountsTo shapes none arguments settings) :
    AmountsTo shapes none (argument :: arguments) (.operand argument :: settings) where
  fits := List.forall_mem_cons.2 ⟨trivial, later.fits⟩
  reads reading := by
    simp only [readArguments, if_neg more, if_neg plain]
    rw [List.foldlM_cons]
    exact bind_congr later.reads

theorem exists_amountsTo {option : Option OptionShape}
    (h : readArguments shapes ⟨reading, option⟩ arguments = .ok result)
    (known : ∀ shape, option = some shape → shape ∈ shapes) :
    ∃ settings, AmountsTo shapes option arguments settings := by
  induction arguments generalizing reading option with
  | nil =>
    cases option with
    | none => exact ⟨[], amountsTo_nil⟩
    | some shape => cases h
  | cons argument arguments ih =>
    cases option with
    | some shape =>
      simp only [readArguments] at h
      split at h
      · cases h
      · rename_i plain
        obtain ⟨next, set, later⟩ := bind_eq_ok_iff.1 h
        obtain ⟨settings, amounts⟩ := ih later nofun
        exact ⟨_, amountsTo_value (known shape rfl) plain (setValue_eq_ok set) amounts⟩
    | none =>
      simp only [readArguments] at h
      split at h
      · rename_i last
        exact ⟨_, last ▸ amountsTo_operands⟩
      · rename_i more
        split at h
        · rename_i dashed
          obtain ⟨pending, read, later⟩ := bind_eq_ok_iff.1 h
          obtain ⟨first, reads⟩ := exists_readsAs_readDashed read
          obtain ⟨settings, amounts⟩ := ih later reads.known
          exact ⟨_, amountsTo_dashed more dashed reads amounts⟩
        · rename_i plain
          obtain ⟨next, -, later⟩ := bind_eq_ok_iff.1 h
          obtain ⟨settings, amounts⟩ := ih later nofun
          exact ⟨_, amountsTo_operand more plain amounts⟩

end

theorem setOption_eq_ok {shape : OptionShape} {value : String}
    (h : reading.setOption shape value = .ok result) :
    reading.options.lookup shape.long = none ∧
      result = { reading with options := reading.options ++ [(shape.long, value)] } := by
  unfold Reading.setOption at h
  split at h
  · cases h
  · rename_i fresh
    exact ⟨Option.not_isSome_iff_eq_none.1 fresh, (Except.ok.inj h).symm⟩

theorem addOperand_eq_ok {text : String} (h : reading.addOperand text = .ok result) :
    text ≠ "" ∧ reading.operands = [] ∧ result = { reading with operands := [text] } := by
  unfold Reading.addOperand at h
  split at h
  · cases h
  · rename_i fits
    obtain ⟨nonempty, first⟩ := not_or.1 fits
    exact ⟨nonempty, Decidable.not_not.1 first, (Except.ok.inj h).symm⟩

def IsAccepted (shapes : List OptionShape) (option : String × String) : Prop :=
  ∃ shape ∈ shapes, shape.long = option.1 ∧
    (shape.operand ≠ .nothing → shape.operand.accepts option.2 = true)

theorem take_isAccepted {setting : Setting} (fits : setting.Fits shapes)
    (h : reading.take setting = .ok result)
    (before : ∀ option ∈ reading.options, IsAccepted shapes option) :
    ∀ option ∈ result.options, IsAccepted shapes option := by
  cases setting with
  | option shape value =>
    obtain ⟨-, rfl⟩ := setOption_eq_ok h
    intro option mem
    obtain old | new := List.mem_append.1 mem
    · exact before option old
    · rw [List.mem_singleton.1 new]
      exact ⟨shape, fits.1, rfl, fits.2⟩
  | operand text =>
    obtain ⟨-, -, rfl⟩ := addOperand_eq_ok h
    exact before

theorem foldlM_take_isAccepted {settings : List Setting}
    (fits : ∀ setting ∈ settings, setting.Fits shapes)
    (h : settings.foldlM Reading.take reading = .ok result)
    (before : ∀ option ∈ reading.options, IsAccepted shapes option) :
    ∀ option ∈ result.options, IsAccepted shapes option := by
  induction settings generalizing reading with
  | nil =>
    cases h
    exact before
  | cons setting settings ih =>
    rw [List.foldlM_cons] at h
    obtain ⟨next, taken, later⟩ := bind_eq_ok_iff.1 h
    rw [List.forall_mem_cons] at fits
    exact ih fits.2 later (take_isAccepted fits.1 taken before)

def Reading.prepend (reading : Reading) (option : String × String) : Reading :=
  { reading with options := option :: reading.options }

theorem lookup_prepend_of_ne {long other value : String} (apart : other ≠ long) :
    (reading.prepend (long, value)).options.lookup other = reading.options.lookup other := by
  have different : (other == long) = false := beq_false_of_ne apart
  simp only [Reading.prepend, List.lookup_cons, different]

theorem take_prepend {setting : Setting} {long : String}
    (h : reading.take setting = .ok result) (unset : result.options.lookup long = none)
    (value : String) :
    reading.options.lookup long = none ∧
      (reading.prepend (long, value)).take setting = .ok (result.prepend (long, value)) := by
  cases setting with
  | option shape argument =>
    obtain ⟨fresh, rfl⟩ := setOption_eq_ok h
    rw [List.lookup_append, Option.or_eq_none_iff] at unset
    have apart : shape.long ≠ long := by
      rintro rfl
      simp at unset
    refine ⟨unset.1, ?_⟩
    change (reading.prepend (long, value)).setOption shape argument = _
    rw [Reading.setOption, lookup_prepend_of_ne apart, fresh]
    rfl
  | operand text =>
    obtain ⟨nonempty, first, rfl⟩ := addOperand_eq_ok h
    refine ⟨unset, ?_⟩
    change (reading.prepend (long, value)).addOperand text = _
    have fits : ¬(text = "" ∨ (reading.prepend (long, value)).operands ≠ []) := by
      simp [Reading.prepend, nonempty, first]
    rw [Reading.addOperand, if_neg fits]
    rfl

/-- Settings that do not set an option are read as before when it is set in front of them. -/
theorem foldlM_take_prepend {settings : List Setting} {long : String}
    (h : settings.foldlM Reading.take reading = .ok result)
    (unset : result.options.lookup long = none) (value : String) :
    reading.options.lookup long = none ∧
      settings.foldlM Reading.take (reading.prepend (long, value))
        = .ok (result.prepend (long, value)) := by
  induction settings generalizing reading with
  | nil =>
    cases h
    exact ⟨unset, rfl⟩
  | cons setting settings ih =>
    rw [List.foldlM_cons] at h
    obtain ⟨next, taken, later⟩ := bind_eq_ok_iff.1 h
    obtain ⟨stillUnset, rest⟩ := ih later
    obtain ⟨unsetBefore, first⟩ := take_prepend taken stillUnset value
    refine ⟨unsetBefore, ?_⟩
    rw [List.foldlM_cons, first]
    exact rest

variable {arguments : List String} {request : Request} {graph : GraphOptions}
  {options : GenerateOptions}

/-- Before its action a command line has nothing that matters. -/
theorem exists_action_of_readCommandLine (h : readCommandLine reading arguments = .ok request) :
    ∃ flags name rest, arguments = flags ++ name :: rest ∧ readAction name rest = .ok request ∧
      ∀ others, readCommandLine reading (flags ++ name :: others) = readAction name others := by
  induction arguments generalizing reading with
  | nil => cases h
  | cons argument arguments ih =>
    simp only [readCommandLine] at h
    by_cases last : argument = "--"
    · rw [if_pos last] at h
      cases h
    · rw [if_neg last] at h
      by_cases dashed : isDashed argument = true
      · rw [if_pos dashed] at h
        obtain ⟨pending, read, later⟩ := bind_eq_ok_iff.1 h
        obtain ⟨flags, name, rest, split, action, others⟩ := ih later
        refine ⟨argument :: flags, name, rest, by rw [split]; rfl, action, fun rest => ?_⟩
        rw [List.cons_append, readCommandLine, if_neg last, if_pos dashed, read]
        exact others rest
      · rw [if_neg dashed] at h
        refine ⟨[], argument, arguments, rfl, h, fun rest => ?_⟩
        rw [List.nil_append, readCommandLine, if_neg last, if_neg dashed]

variable {action : Action}

theorem request_eq_ok (h : reading.request action = .ok request) :
    request.action = action := by
  unfold Reading.request at h
  split at h
  · cases h
    rfl
  · cases h

/-- Whether a command line asks to generate, by some settings after the name of the action. -/
structure Generates (arguments flags rest : List String) (settings : List Setting)
    (reading : Reading) : Prop where
  split : arguments = flags ++ "generate" :: rest
  amounts : AmountsTo (graphShapes ++ generateShapes) none rest settings
  taken : settings.foldlM Reading.take {} = .ok reading
  parses : ∀ others, parse (flags ++ "generate" :: others) = readAction "generate" others

theorem exists_generates (h : parse arguments = .ok ⟨graph, .generate options⟩) :
    ∃ flags rest settings reading, Generates arguments flags rest settings reading ∧
      reading.request reading.generate = .ok ⟨graph, .generate options⟩ := by
  obtain ⟨flags, name, rest, split, action, parses⟩ := exists_action_of_readCommandLine h
  unfold readAction at action
  split at action
  · obtain ⟨reading, read, made⟩ := bind_eq_ok_iff.1 action
    obtain ⟨settings, amounts⟩ := exists_amountsTo read nofun
    exact ⟨flags, rest, settings, reading,
      ⟨split, amounts, (amounts.reads {}).symm.trans read, parses⟩, made⟩
  · obtain ⟨reading, -, made⟩ := bind_eq_ok_iff.1 action
    cases request_eq_ok made
  · obtain ⟨reading, -, made⟩ := bind_eq_ok_iff.1 action
    cases request_eq_ok made
  · obtain ⟨reading, -, made⟩ := bind_eq_ok_iff.1 action
    cases request_eq_ok made
  · cases action
  · cases action

theorem sourceRoot_ne_empty (h : parse arguments = .ok ⟨graph, .generate options⟩) {root : String}
    (given : options.sourceRoot = some root) : root ≠ "" := by
  obtain ⟨flags, rest, settings, reading, generates, made⟩ := exists_generates h
  cases request_eq_ok made
  have found : reading.options.lookup "source-root" = some root := given
  obtain ⟨before, after, split, -⟩ := List.lookup_eq_some_iff.1 found
  have mem : ("source-root", root) ∈ reading.options := by simp [split]
  obtain ⟨shape, known, name, accepts⟩ :=
    foldlM_take_isAccepted generates.amounts.fits generates.taken nofun _ mem
  have isPath : ∀ shape ∈ graphShapes ++ generateShapes,
      shape.long = "source-root" → shape.operand = .path := by decide
  rw [isPath shape known name] at accepts
  exact bne_iff_ne.1 (accepts nofun)

def longArgument (long value : String) : String := "--" ++ long ++ "=" ++ value

theorem readDashed_output {file : String} (nonempty : file ≠ "") :
    readDashed (graphShapes ++ generateShapes) false {} ('-' :: "output=".toList ++ file.toList)
      = .ok ⟨Reading.prepend {} ("output", file), none⟩ := by
  have name : ("output=".toList ++ file.toList).takeWhile (· != '=') = "output".toList := by
    simp
  have value : ("output=".toList ++ file.toList).dropWhile (· != '=') = '=' :: file.toList := by
    simp
  have found : (graphShapes ++ generateShapes).find?
      (fun shape => shape.long.toList = "output".toList) = some ⟨"output", some 'o', .path⟩ := by
    rfl
  have accepts : Operand.path.accepts file = true := bne_iff_ne.2 nonempty
  rw [List.cons_append]
  unfold readDashed
  simp only [name, value, readLong, found, String.ofList_toList]
  rw [setValue_of_accepts accepts]
  rfl

theorem readArguments_output {file : String} (nonempty : file ≠ "") (rest : List String) :
    readArguments (graphShapes ++ generateShapes) ⟨{}, none⟩ (longArgument "output" file :: rest)
      = readArguments (graphShapes ++ generateShapes) ⟨Reading.prepend {} ("output", file), none⟩
        rest := by
  have chars : (longArgument "output" file).toList
      = '-' :: '-' :: "output=".toList ++ file.toList := by
    simp [longArgument]
  have named : longArgument "output" file ≠ "--" := by
    intro eq
    rw [eq] at chars
    simp at chars
  have dashed : isDashed (longArgument "output" file) = true := by
    have longer : longArgument "output" file ≠ "-" := by
      intro eq
      rw [eq] at chars
      simp at chars
    simp [isDashed, chars, longer]
  rw [readArguments]
  simp only [if_neg named, if_pos dashed, chars, List.cons_append, List.drop_one, List.tail_cons]
  rw [← List.cons_append, readDashed_output nonempty]
  rfl

theorem request_prepend_output (file : String) (action : Action) :
    (reading.prepend ("output", file)).request action = reading.request action := by
  have same : ∀ option ≠ "output", (reading.prepend ("output", file)).options.lookup option
      = reading.options.lookup option := fun _ => lookup_prepend_of_ne
  unfold Reading.request Reading.has Reading.value?
  rw [same "lenient" (by decide), same "detect-entry-points" (by decide),
    same "config" (by decide)]
  rfl

theorem generate_prepend_output (h : reading.generate = .generate options) (file : String) :
    (reading.prepend ("output", file)).generate
      = .generate { options with output := some file } := by
  cases h
  have same : ∀ option ≠ "output", (reading.prepend ("output", file)).options.lookup option
      = reading.options.lookup option := fun _ => lookup_prepend_of_ne
  unfold Reading.generate Reading.number? Reading.has Reading.value?
  rw [same "max-levels" (by decide), same "source-root" (by decide),
    same "redact-answers" (by decide)]
  rfl

theorem request_action (h : reading.request action = .ok request) (other : Action) :
    reading.request other = .ok { request with action := other } := by
  unfold Reading.request at h ⊢
  split at h
  · cases h
    rfl
  · cases h

/-- Every generating command line that prints its text can be made to write it to a file. -/
theorem parse_output (h : parse arguments = .ok ⟨graph, .generate options⟩)
    (noFile : options.output = none) {file : String} (nonempty : file ≠ "") :
    ∃ flags rest, arguments = flags ++ "generate" :: rest ∧
      parse (flags ++ "generate" :: longArgument "output" file :: rest)
        = .ok ⟨graph, .generate { options with output := some file }⟩ := by
  obtain ⟨flags, rest, settings, reading, generates, made⟩ := exists_generates h
  refine ⟨flags, rest, generates.split, ?_⟩
  have generate : reading.generate = .generate options := (request_eq_ok made).symm
  have unset : reading.options.lookup "output" = none := by
    cases generate
    exact noFile
  have read := (readArguments_output nonempty rest).trans (generates.amounts.reads _)
  rw [(foldlM_take_prepend generates.taken unset file).2] at read
  rw [generates.parses]
  change (readArguments _ _ _ >>= fun reading => reading.request reading.generate) = _
  rw [read]
  change (reading.prepend ("output", file)).request (reading.prepend ("output", file)).generate = _
  rw [generate_prepend_output generate, request_prepend_output]
  exact request_action made _

end CodeReading.Command
