import MarketGateway.Proofs.Runs
import MarketGateway.Settings.EnvironmentFile

/-!
# What an environment file defines

`Defines` says which definitions stand in lines that can all be loaded, and `Ends` which lines cannot be
loaded and why. Every file either gives definitions or has a first line that ends the loading:
`defines_or_ends`. Loading it adds the definitions to the environment, where what is set keeps its value, or
fails as that line does: `load_of_defines` and `load_of_ends`.
-/

namespace MarketGateway

/-! ### Environments -/

namespace Environment

variable {env other defs : Environment} {d : String × String}

/-- The same variables are set to the same values. -/
def Agrees (env other : Environment) : Prop := ∀ name, env.get? name = other.get? name

theorem Agrees.refl (env : Environment) : Agrees env env := fun _ => rfl

/-- The environment with definitions added to it: what was set keeps its value, and of two definitions
of one name the first counts. -/
def IsExtension (extended env defs : Environment) : Prop :=
  ∀ name, extended.get? name = (env.get? name).or (defs.get? name)

theorem get?_append (env defs : Environment) (name : String) :
    get? (env ++ defs) name = (env.get? name).or (defs.get? name) := by
  simp only [get?, List.find?_append, Option.map_or]

theorem isExtension_append (env defs : Environment) : IsExtension (env ++ defs) env defs := get?_append env defs

theorem IsExtension.agrees {extended : Environment} (extension : IsExtension extended env defs) :
    Agrees (env ++ defs) extended := fun name =>
  (get?_append env defs name).trans (extension name).symm

/-- The definition may come next: it has no effect because its variable is set, or it has a value that a
variable can have. -/
def Settable (env : Environment) (d : String × String) : Prop :=
  (env.get? d.1).isSome = true ∨ '\x00' ∉ d.2.toList

/-- A definition has no effect on a name that is set. -/
theorem agrees_provide (agrees : Agrees env other) (settable : Settable other d) :
    ∃ next, env.provide? d.1 d.2 = some next ∧ Agrees next (other ++ [d]) := by
  rw [provide?]
  split
  · rename_i set
    refine ⟨env, rfl, fun key => ?_⟩
    rw [get?_append, ← agrees key]
    by_cases same : d.1 = key
    · subst same
      obtain ⟨v, found⟩ := Option.isSome_iff_exists.mp set
      rw [found]
      rfl
    · have foreign : get? [d] key = none := by simp [get?, same]
      rw [foreign, Option.or_none]
  · rename_i unset
    have possible : '\x00' ∉ d.2.toList := settable.resolve_left (agrees d.1 ▸ unset)
    refine ⟨env ++ [d], if_neg possible, fun key => ?_⟩
    rw [get?_append, get?_append, agrees key]

theorem provide?_of_zero {name value : String} (unset : env.get? name = none) (zero : '\x00' ∈ value.toList) :
    env.provide? name value = none := by
  rw [provide?, unset]
  exact if_pos zero

end Environment

/-! ### Lines -/

namespace EnvironmentFile

open Environment (Agrees Settable)

variable {env other defs : Environment} {bytes : List UInt8} {listed : List (List UInt8)} {fault : LoadFault}

/-- The lines can be loaded and hold these definitions, in their order. A value may refer to the environment
and to the definitions before it. -/
inductive Defines : Environment → List (List UInt8) → Environment → Prop where
  | nil (env : Environment) : Defines env [] []
  | skip {env defs : Environment} {bytes : List UInt8} {listed : List (List UInt8)} {line : String}
      (text : decode? bytes = some line) (blank : readLine env line = .ok none)
      (rest : Defines env listed defs) : Defines env (bytes :: listed) defs
  | define {env defs : Environment} {bytes : List UInt8} {listed : List (List UInt8)} {line : String}
      {d : String × String} (text : decode? bytes = some line) (read : readLine env line = .ok (some d))
      (settable : Settable env d) (rest : Defines (env ++ [d]) listed defs) :
      Defines env (bytes :: listed) (d :: defs)

/-- The line cannot be loaded: it is no text, or malformed, or defines a variable that is not set with a
value that no variable can have. -/
inductive Ends (env : Environment) (bytes : List UInt8) : LoadFault → Prop where
  | encoding (foreign : decode? bytes = none) : Ends env bytes (.error .encoding)
  | line {line : String} {e : LineError} (text : decode? bytes = some line)
      (malformed : readLine env line = .error e) : Ends env bytes (.error (.line e))
  | unsettable {line name value : String} (text : decode? bytes = some line)
      (read : readLine env line = .ok (some (name, value))) (unset : env.get? name = none)
      (zero : '\x00' ∈ value.toList) : Ends env bytes (.unsettable ⟨name, value⟩)

theorem line_cases (env : Environment) (bytes : List UInt8) :
    (∃ fault, Ends env bytes fault) ∨
      (∃ line, decode? bytes = some line ∧ readLine env line = .ok none) ∨
      ∃ line d, decode? bytes = some line ∧ readLine env line = .ok (some d) ∧ Settable env d := by
  cases text : decode? bytes with
  | none => exact .inl ⟨_, .encoding text⟩
  | some line =>
    cases read : readLine env line with
    | error e => exact .inl ⟨_, .line text read⟩
    | ok result =>
      cases result with
      | none => exact .inr (.inl ⟨line, rfl, read⟩)
      | some d =>
        by_cases settable : Settable env d
        · exact .inr (.inr ⟨line, d, rfl, read, settable⟩)
        · obtain ⟨unset, zero⟩ := not_or.mp settable
          exact .inl ⟨_, .unsettable text read (by simpa using unset) (Decidable.not_not.mp zero)⟩

/-- Lines hold definitions, or one of them is the first that cannot be loaded. -/
theorem defines_or_ends (env : Environment) (listed : List (List UInt8)) :
    (∃ defs, Defines env listed defs) ∨ ∃ before bytes after defs fault, listed = before ++ bytes :: after ∧
      Defines env before defs ∧ Ends (env ++ defs) bytes fault := by
  induction listed generalizing env with
  | nil => exact .inl ⟨[], .nil env⟩
  | cons bytes listed ih =>
    rcases line_cases env bytes with ⟨fault, ends⟩ | ⟨line, text, blank⟩ | ⟨line, d, text, read, settable⟩
    · exact .inr ⟨[], bytes, listed, [], fault, rfl, .nil env, (List.append_nil env).symm ▸ ends⟩
    · rcases ih env with ⟨defs, defines⟩ | ⟨before, last, after, defs, fault, rfl, defines, ends⟩
      · exact .inl ⟨defs, .skip text blank defines⟩
      · exact .inr ⟨bytes :: before, last, after, defs, fault, rfl, .skip text blank defines, ends⟩
    · rcases ih (env ++ [d]) with ⟨defs, defines⟩ | ⟨before, last, after, defs, fault, rfl, defines, ends⟩
      · exact .inl ⟨d :: defs, .define text read settable defines⟩
      · refine .inr ⟨bytes :: before, last, after, d :: defs, fault, rfl, .define text read settable defines, ?_⟩
        rwa [List.append_assoc] at ends

/-! ### Loading -/

section Agrees
variable (agrees : Agrees env other)
include agrees

theorem lookUp_congr (name : List Char) : ValueState.lookUp env name = ValueState.lookUp other name := by
  rw [ValueState.lookUp, ValueState.lookUp, agrees]

theorem step_congr (s : ValueState) (c : Char) : s.step env c = s.step other c := by
  simp only [ValueState.step, ValueState.stepName, lookUp_congr agrees]

theorem finish?_congr (s : ValueState) : s.finish? env = s.finish? other := by
  simp only [ValueState.finish?, lookUp_congr agrees]

theorem readValueFrom_congr (text : String) (s : ValueState) (index : Nat) (cs : List Char) :
    readValueFrom env text s index cs = readValueFrom other text s index cs := by
  induction cs generalizing s index with
  | nil => simp only [readValueFrom, finish?_congr agrees]
  | cons c cs ih => simp only [readValueFrom, finish?_congr agrees, step_congr agrees, ih]

/-- A line depends on the environment only through the values of variables. -/
theorem readLine_congr (line : String) : readLine env line = readLine other line := by
  simp only [readLine, readValue, readValueFrom_congr agrees]

theorem loadLine_of_ends (ends : Ends other bytes fault) : loadLine env bytes = .error fault := by
  cases ends with
  | encoding foreign => rw [loadLine, foreign]
  | line text malformed =>
    rw [loadLine, text]
    simp only [readLine_congr agrees, malformed]
  | unsettable text read unset zero =>
    have refused := Environment.provide?_of_zero ((agrees _).trans unset) zero
    rw [loadLine, text]
    simp only [readLine_congr agrees, read, refused]

end Agrees

theorem foldlM_of_defines (defines : Defines other listed defs) (agrees : Agrees env other) :
    ∃ loaded, listed.foldlM loadLine env = .ok loaded ∧ Agrees loaded (other ++ defs) := by
  induction defines generalizing env with
  | nil => exact ⟨env, rfl, by rwa [List.append_nil]⟩
  | @skip _ _ bytes _ _ text blank _ ih =>
    have quiet : loadLine env bytes = .ok env := by
      rw [loadLine, text]
      simp only [readLine_congr agrees, blank]
    rw [List.foldlM_cons, quiet]
    exact ih agrees
  | @define _ _ bytes _ _ _ text read settable _ ih =>
    -- The rest of the lines sees the definition, unless it comes too late.
    obtain ⟨next, set, agrees'⟩ := Environment.agrees_provide agrees settable
    have defined : loadLine env bytes = .ok next := by
      rw [loadLine, text]
      simp only [readLine_congr agrees, read, set]
    rw [List.foldlM_cons, defined]
    obtain ⟨loaded, ran, result⟩ := ih agrees'
    rw [List.append_assoc] at result
    exact ⟨loaded, ran, result⟩

/-- The line is the first of the file that is not among those with the definitions. -/
def Follows (env : Environment) (content : Content) (defs : Environment) (bytes : List UInt8) : Prop :=
  ∃ before after, lines content = before ++ bytes :: after ∧ Defines env before defs

variable {content : Content}

theorem load_of_defines (defines : Defines env (lines content) defs) (whole : content.failure = none) :
    ∃ loaded, load env content = .ok loaded ∧ Agrees loaded (env ++ defs) := by
  obtain ⟨loaded, ran, agrees⟩ := foldlM_of_defines defines (.refl env)
  refine ⟨loaded, ?_, agrees⟩
  rw [load, ran, whole]
  rfl

theorem load_of_failure {reason : String} (defines : Defines env (lines content) defs)
    (failed : content.failure = some reason) : load env content = .error (.error (.reading reason)) := by
  obtain ⟨loaded, ran, -⟩ := foldlM_of_defines defines (.refl env)
  rw [load, ran, failed]
  rfl

theorem load_of_ends (follows : Follows env content defs bytes) (ends : Ends (env ++ defs) bytes fault) :
    load env content = .error fault := by
  obtain ⟨before, after, listed, defines⟩ := follows
  obtain ⟨loaded, ran, agrees⟩ := foldlM_of_defines defines (.refl env)
  have ended : (lines content).foldlM loadLine env = .error fault := by
    rw [listed, List.foldlM_append, ran]
    show (bytes :: after).foldlM loadLine loaded = _
    rw [List.foldlM_cons, loadLine_of_ends agrees ends]
    rfl
  rw [load, ended]
  rfl

/-! ### A file with two keys -/

/-- A character that stands for itself in a value. -/
def isOrdinary (c : Char) : Bool := c ∉ ['$', '\\', '\'', '"', ' ', '\t']

theorem readValueFrom_ordinary {cs : List Char} (ordinary : cs.all isOrdinary = true) (text : String)
    (sofar : List Char) (index : Nat) :
    readValueFrom env text ⟨.plain, false, sofar⟩ index cs = .ok (sofar ++ cs) := by
  induction cs generalizing sofar index with
  | nil => simp [readValueFrom, ValueState.finish?]
  | cons c cs ih =>
    obtain ⟨here, later⟩ := Bool.and_eq_true_iff.mp (List.all_cons ▸ ordinary)
    have pushed : ValueState.step env ⟨.plain, false, sofar⟩ c = some ⟨.plain, false, sofar ++ [c]⟩ := by
      simp only [isOrdinary, List.mem_cons, List.not_mem_nil, not_or, decide_eq_true_eq, or_false] at here
      simp [ValueState.step, ValueState.stepPlain, ValueState.push, here]
    rw [readValueFrom, pushed]
    have more := ih later (sofar ++ [c]) (index + 1)
    rw [List.append_assoc] at more
    exact more

theorem readValue_ordinary {cs : List Char} (ordinary : cs.all isOrdinary = true) :
    readValue env cs = .ok cs := readValueFrom_ordinary ordinary _ [] 0

def twoKeys : Content := .ofText "A_API_KEY=1\nA_SECRET_KEY=2\n"

theorem twoKeys_defines (env : Environment) :
    Defines env (lines twoKeys) [("A_API_KEY", "1"), ("A_SECRET_KEY", "2")] := by
  have apiKey : ∀ env, readLine env "A_API_KEY=1" = .ok (some ("A_API_KEY", "1")) := by
    intro env
    show readValue env ['1'] >>= _ = _
    rw [readValue_ordinary (by decide)]
    rfl
  have secretKey : ∀ env, readLine env "A_SECRET_KEY=2" = .ok (some ("A_SECRET_KEY", "2")) := by
    intro env
    show readValue env ['2'] >>= _ = _
    rw [readValue_ordinary (by decide)]
    rfl
  have listed : lines twoKeys =
      ["A_API_KEY=1".toUTF8.data.toList, "A_SECRET_KEY=2".toUTF8.data.toList] := by decide
  rw [listed]
  refine .define ?_ (apiKey env) (.inr (by decide)) (.define ?_ (secretKey _) (.inr (by decide)) (.nil _))
  · decide
  · decide

end EnvironmentFile

end MarketGateway
