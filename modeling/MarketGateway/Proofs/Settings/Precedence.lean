import MarketGateway.Proofs.Settings.EnvironmentFile
import MarketGateway.Proofs.Text.Splitting
import MarketGateway.Settings.Environment

/-!
# Precedence of environment files

Of the candidates for an environment file the first one that is not missing counts, whatever the later
ones are, and its definitions only set what the environment leaves open: `ofFirstFile_precedence`.
-/

namespace MarketGateway

/-! ### Paths in a directory -/

namespace Directory

variable {d : Directory} {name path : String}

/-- The path is a single name, and no longer than paths may be. -/
structure IsName (name : String) : Prop where
  special : name ∉ ["", ".", ".."]
  noZero : '\x00' ∉ name.toList
  noSlash : '/' ∉ name.toList
  short : name.utf8ByteSize ≤ maxPath

theorem names_of_isName (is : IsName name) : names name = [name] := by
  have one : Text.pieces (· = '/') name.toList = [name.toList] := by
    refine Text.pieces_eq_singleton_iff.mpr ⟨rfl, fun c member => decide_eq_false ?_⟩
    rintro rfl
    exact is.noSlash member
  rw [names, one, List.map_singleton, String.ofList_toList]

theorem startsWith_of_isName (is : IsName name) : ¬ Text.startsWith name "/" = true := by
  intro starts
  obtain ⟨rest, same⟩ := List.isPrefixOf_iff_prefix.mp starts
  exact is.noSlash (same ▸ List.mem_append_left rest (List.mem_singleton_self '/'))

/-- A name leads to what is there under the name, unless it is longer than names may be. -/
theorem find_of_isName (is : IsName name) : d.find name =
    if maxName < name.utf8ByteSize then .error .nameTooLong
    else (d.node? [name]).elim (.error .missing) .ok := by
  obtain ⟨nonempty, here, above⟩ : name ≠ "" ∧ name ≠ "." ∧ name ≠ ".." := by simpa using is.special
  have text : ¬ name.contains '\x00' = true := by simpa using is.noZero
  have short : ¬ maxPath < name.utf8ByteSize := Nat.not_lt.mpr is.short
  have root : d.node? [] = some .directory := rfl
  rw [find, if_neg text, if_neg nonempty, if_neg short, if_neg (startsWith_of_isName is), names_of_isName is,
    follow, root]
  simp only [nonempty, here, above, or_self, if_false]
  split
  · rfl
  · rfl

theorem opening_of_missing (found : d.find path = .error .missing) : d.opening path = .missing := by
  rw [opening, found]

theorem opening_of_nameTooLong (found : d.find path = .error .nameTooLong) :
    d.opening path = .refused "File name too long (os error 36)" := by
  rw [opening, found]
  rfl

theorem opening_of_file {bytes : List UInt8} (found : d.find path = .ok (.file bytes)) :
    d.opening path = .opened ⟨bytes, none⟩ := by
  rw [opening, found]

/-- The file of an environment is a single name unless the environment has a slash in its name. -/
theorem isName_env (noZero : '\x00' ∉ name.toList) (noSlash : '/' ∉ name.toList)
    (short : name.utf8ByteSize + 5 ≤ maxPath) : IsName (".env." ++ name) where
  special member := by
    simp only [List.mem_cons, List.not_mem_nil, or_false, ← String.toList_inj, String.toList_append] at member
    simp at member
  noZero := by simpa using noZero
  noSlash := by simpa using noSlash
  short := by
    have size : ".env.".utf8ByteSize = 5 := by decide
    rw [String.utf8ByteSize_append, size]
    omega

theorem utf8ByteSize_replicate {c : Char} (narrow : c.utf8Size = 1) (n : Nat) :
    (String.ofList (List.replicate n c)).utf8ByteSize = n := by
  induction n with
  | zero => rfl
  | succ n ih =>
    rw [List.replicate_succ, String.ofList_cons, String.utf8ByteSize_append, String.utf8ByteSize_singleton,
      ih, narrow, Nat.add_comm]

end Directory

/-! ### Candidates -/

namespace Settings

open Environment (Agrees IsExtension)
open EnvironmentFile (Defines Ends Follows LineError LoadFault decode? lines readLine)

variable {exchange path : String} {files : Files} {env : Environment} {before : List String}

theorem ofEnvironment_congr {other : Environment} (agrees : Agrees env other) :
    ofEnvironment exchange env = ofEnvironment exchange other := by
  have same : env.get? = other.get? := funext agrees
  simp only [ofEnvironment, required, windowOf, marketKindOf, same]

/-- The files that are looked for, in their order. -/
def searched (env : Environment) : List String :=
  [".env.local", ".env." ++ (env.get? "ENVIRONMENT").getD "development", ".env"]

theorem candidates_eq (env : Environment) : candidates env = searched env := rfl

/-- The candidate is not missing, and the ones before it are. -/
structure IsFirst (files : Files) (env : Environment) (before : List String) (path : String) : Prop where
  candidate : ∃ after, searched env = before ++ path :: after
  missing : ∀ earlier ∈ before, files earlier = .missing
  there : files path ≠ .missing

theorem missing_or_isFirst (files : Files) (env : Environment) :
    (∀ path ∈ searched env, files path = .missing) ∨ ∃ before path, IsFirst files env before path := by
  cases found : (searched env).find? fun path => decide (files path ≠ .missing) with
  | none => exact .inl (by simpa using found)
  | some path =>
    obtain ⟨there, before, after, listed, missing⟩ := List.find?_eq_some_iff_append.mp found
    exact .inr ⟨before, path, ⟨after, listed⟩, by simpa using missing, by simpa using there⟩

theorem loadFirst_of_missing (missing : ∀ earlier ∈ before, files earlier = .missing)
    (rest : List String) : loadFirst files env (before ++ rest) = loadFirst files env rest := by
  induction before with
  | nil => rfl
  | cons earlier before ih =>
    obtain ⟨here, later⟩ := List.forall_mem_cons.mp missing
    rw [List.cons_append, loadFirst, loadFile, here]
    exact ih later

theorem IsFirst.loadFirst_eq (first : IsFirst files env before path) :
    loadFirst files env (candidates env) =
      loadFile files env path >>= fun loaded => .ok (loaded.getD env) := by
  obtain ⟨after, listed⟩ := first.candidate
  rw [candidates_eq, listed, loadFirst_of_missing first.missing, loadFirst, loadFile]
  split
  · exact absurd ‹_› first.there
  · rfl
  · split <;> rfl

theorem IsFirst.ofFirstFile_of_error {fault : ReadFault} (exchange : String)
    (first : IsFirst files env before path) (failed : loadFile files env path = .error fault) :
    ofFirstFile exchange files env = .error fault := by
  rw [ofFirstFile, first.loadFirst_eq, failed]
  rfl

theorem IsFirst.ofFirstFile_of_ends {content : Content} {defs : Environment} {bytes : List UInt8} {fault : LoadFault}
    (exchange : String) (first : IsFirst files env before path) (opened : files path = .opened content)
    (follows : Follows env content defs bytes) (ends : Ends (env ++ defs) bytes fault) :
    ofFirstFile exchange files env = .error (.ofLoadFault path fault) := by
  refine first.ofFirstFile_of_error exchange ?_
  rw [loadFile, opened]
  simp only [EnvironmentFile.load_of_ends follows ends]

/-- What the settings are when the first candidate that is not missing has been opened. -/
structure Precedence (exchange : String) (files : Files) (env : Environment) (before : List String)
    (path : String) : Prop where
  defined : ∀ bytes defs extended, files path = .opened ⟨bytes, none⟩ → Defines env (lines ⟨bytes, none⟩) defs →
    IsExtension extended env defs →
      ofFirstFile exchange files env = (ofEnvironment exchange extended).mapError .error
  malformed : ∀ content defs bytes line (e : LineError), files path = .opened content →
    Follows env content defs bytes → decode? bytes = some line → readLine (env ++ defs) line = .error e →
      ofFirstFile exchange files env = .error (.error (.invalid (.environmentFile path e.message)))
  notText : ∀ content defs bytes, files path = .opened content → Follows env content defs bytes →
    decode? bytes = none → ofFirstFile exchange files env =
      .error (.error (.invalid (.environmentFile path "stream did not contain valid UTF-8")))
  /-- The program ends with a variable that is not set yet and that no value of the file can be given to. -/
  unsettable : ∀ content defs bytes line name value, files path = .opened content →
    Follows env content defs bytes → decode? bytes = some line →
      readLine (env ++ defs) line = .ok (some (name, value)) → (env ++ defs).get? name = none →
        '\x00' ∈ value.toList → ofFirstFile exchange files env = .error (.unsettable ⟨name, value⟩)
  interrupted : ∀ bytes reason defs, files path = .opened ⟨bytes, some reason⟩ →
    Defines env (lines ⟨bytes, some reason⟩) defs →
      ofFirstFile exchange files env = .error (.error (.invalid (.environmentFile path reason)))
  refused : ∀ reason, files path = .refused reason →
    ofFirstFile exchange files env = .error (.error (.invalid (.environmentFile path reason)))
  shadowed : ∀ others : Files, (∀ p ∈ before ++ [path], others p = files p) →
    ofFirstFile exchange others env = ofFirstFile exchange files env

theorem IsFirst.precedence (exchange : String) (first : IsFirst files env before path) :
    Precedence exchange files env before path where
  defined bytes defs extended opened defines extension := by
    obtain ⟨loaded, ran, agrees⟩ := EnvironmentFile.load_of_defines defines rfl
    have file : loadFile files env path = .ok (some loaded) := by
      rw [loadFile, opened]
      simp only [ran]
    rw [ofFirstFile, first.loadFirst_eq, file]
    refine congrArg (Except.mapError ReadFault.error) ?_
    exact (ofEnvironment_congr agrees).trans (ofEnvironment_congr extension.agrees)
  malformed content defs bytes line e opened follows text wrong :=
    first.ofFirstFile_of_ends exchange opened follows (.line text wrong)
  notText content defs bytes opened follows foreign :=
    first.ofFirstFile_of_ends exchange opened follows (.encoding foreign)
  unsettable content defs bytes line name value opened follows text read unset zero :=
    first.ofFirstFile_of_ends exchange opened follows (.unsettable text read unset zero)
  interrupted bytes reason defs opened defines := by
    refine first.ofFirstFile_of_error exchange ?_
    rw [loadFile, opened]
    simp only [EnvironmentFile.load_of_failure defines rfl]
    rfl
  refused reason opened := by
    refine first.ofFirstFile_of_error exchange ?_
    rw [loadFile, opened]
    rfl
  shadowed others same := by
    have here : others path = files path := same path (by simp)
    have other : IsFirst others env before path :=
      ⟨first.candidate, fun p member => (same p (by simp [member])).trans (first.missing p member),
        here ▸ first.there⟩
    rw [ofFirstFile, ofFirstFile, first.loadFirst_eq, other.loadFirst_eq, loadFile, loadFile, here]

/-- What the first candidate that is not missing can turn out to be. -/
theorem IsFirst.opening_cases (first : IsFirst files env before path) :
    (∃ reason, files path = .refused reason) ∨ ∃ content, files path = .opened content ∧
      ((∃ defs, Defines env (lines content) defs) ∨
        ∃ defs bytes fault, Follows env content defs bytes ∧ Ends (env ++ defs) bytes fault) := by
  cases found : files path with
  | missing => exact absurd found first.there
  | refused reason => exact .inl ⟨reason, rfl⟩
  | opened content =>
    refine .inr ⟨content, rfl, ?_⟩
    rcases EnvironmentFile.defines_or_ends env (lines content) with
      defines | ⟨start, bytes, after, defs, fault, listed, defines, ends⟩
    · exact .inl defines
    · exact .inr ⟨defs, bytes, fault, ⟨start, after, listed, defines⟩, ends⟩

/-- Settings are read from the environment and the first candidate that is not missing. Variables that
are set keep their values, and of several definitions the first one counts. A candidate that is
malformed, no text, or cannot be opened or read is an error, and a value that no variable can have ends the
program unless its variable is set; later candidates make no difference. -/
theorem ofFirstFile_precedence (exchange : String) (files : Files) (env : Environment) :
    ((∀ path ∈ searched env, files path = .missing) →
      ofFirstFile exchange files env = (ofEnvironment exchange env).mapError .error) ∧
    (∀ before path, IsFirst files env before path → Precedence exchange files env before path) ∧
    ((∀ path ∈ searched env, files path = .missing) ∨ ∃ before path, IsFirst files env before path ∧
      ((∃ reason, files path = .refused reason) ∨ ∃ content, files path = .opened content ∧
        ((∃ defs, Defines env (lines content) defs) ∨
          ∃ defs bytes fault, Follows env content defs bytes ∧ Ends (env ++ defs) bytes fault))) := by
  refine ⟨fun missing => ?_, fun _ _ first => first.precedence exchange, ?_⟩
  · have none : loadFirst files env (searched env ++ []) = .ok env := loadFirst_of_missing missing []
    rw [List.append_nil] at none
    rw [ofFirstFile, candidates_eq, none]
    rfl
  · rcases missing_or_isFirst files env with missing | ⟨before, path, first⟩
    · exact .inl missing
    · exact .inr ⟨before, path, first, first.opening_cases⟩

/-- With nothing but the keys the settings have the default window and market. -/
theorem ofEnvironment_of_keys {apiKey secretKey : String}
    (key : env.get? (Text.upper exchange ++ "_API_KEY") = some apiKey)
    (secret : env.get? (Text.upper exchange ++ "_SECRET_KEY") = some secretKey)
    (others : ∀ option ∈ ["_WINDOW_MS", "_MARKET_KIND", "_BASE_URL", "_WS_URL"],
      env.get? (Text.upper exchange ++ option) = none) :
    ofEnvironment exchange env = .ok (ofKeys apiKey secretKey) := by
  simp only [List.forall_mem_cons, List.not_mem_nil, false_imp_iff, implies_true, and_true] at others
  simp only [ofEnvironment, required, windowOf, marketKindOf, key, secret, others]
  rfl

/-- A directory with nothing outside of it. -/
def closedDirectory (files : List (String × List UInt8)) : Directory := ⟨files, fun _ => .error .missing⟩

/-- Of the file of an environment and the shared one the first counts, even if the other one is no text, and a
key that is set is kept. Without the key, a zero character in its value ends the program. -/
theorem ofFirstFile_precedence_development :
    let directory := closedDirectory [(".env.development", EnvironmentFile.twoKeys.bytes), (".env", [255])]
    let broken := closedDirectory [(".env", "A_API_KEY=\x00".toUTF8.data.toList)]
    ofFirstFile "a" directory.opening [("A_API_KEY", "0")] = .ok (ofKeys "0" "2") ∧
      ofFirstFile "a" broken.opening [] = .error (.unsettable ⟨"A_API_KEY", "\x00"⟩) := by
  intro directory broken
  have plain : ∀ name ∈ [".env.local", ".env.development", ".env"], Directory.IsName name := by
    simp only [List.forall_mem_cons, List.not_mem_nil, false_imp_iff, implies_true, and_true]
    exact ⟨⟨by decide, by decide, by decide, by decide⟩, ⟨by decide, by decide, by decide, by decide⟩,
      by decide, by decide, by decide, by decide⟩
  constructor
  · have absent : directory.opening ".env.local" = .missing :=
      Directory.opening_of_missing (by rw [Directory.find_of_isName (plain _ (by decide))]; rfl)
    have opened : directory.opening ".env.development" = .opened EnvironmentFile.twoKeys :=
      Directory.opening_of_file (by rw [Directory.find_of_isName (plain _ (by decide))]; rfl)
    have first : IsFirst directory.opening [("A_API_KEY", "0")] [".env.local"] ".env.development" :=
      ⟨⟨[".env"], rfl⟩, by simpa using absent, by simp [opened]⟩
    have capital : Text.upper "a" = "A" := by decide
    rw [((ofFirstFile_precedence "a" directory.opening _).2.1 _ _ first).defined _ _ _ opened
      (EnvironmentFile.twoKeys_defines _) (Environment.isExtension_append _ _), ofEnvironment_of_keys]
    · rfl
    all_goals simp [capital, Environment.get?]
  · have absent : ∀ name ∈ [".env.local", ".env.development"], broken.opening name = .missing := by
      simp only [List.forall_mem_cons, List.not_mem_nil, false_imp_iff, implies_true, and_true]
      constructor
      · exact Directory.opening_of_missing (by rw [Directory.find_of_isName (plain _ (by decide))]; rfl)
      · exact Directory.opening_of_missing (by rw [Directory.find_of_isName (plain _ (by decide))]; rfl)
    have opened : broken.opening ".env" = .opened (.ofText "A_API_KEY=\x00") :=
      Directory.opening_of_file (by rw [Directory.find_of_isName (plain _ (by decide))]; rfl)
    have first : IsFirst broken.opening [] [".env.local", ".env.development"] ".env" :=
      ⟨⟨[], rfl⟩, absent, by simp [opened]⟩
    have bytes : lines (.ofText "A_API_KEY=\x00") = ["A_API_KEY=\x00".toUTF8.data.toList] := by decide
    refine ((ofFirstFile_precedence "a" broken.opening _).2.1 _ _ first).unsettable _ [] _ "A_API_KEY=\x00" _ _ opened
      ⟨[], [], bytes, .nil _⟩ (by decide) ?_ rfl (by decide)
    show EnvironmentFile.readValue _ ['\x00'] >>= _ = _
    rw [EnvironmentFile.readValue_ordinary (by decide)]
    rfl

/-- A file is there under the path, or a directory. -/
def IsThere (d : Directory) (path : String) : Prop := ∃ node, d.find path = .ok node

/-- With the name of a candidate too long for any file, the search ends before a file that is there. -/
theorem first_file_that_is_there_need_not_count :
    ¬ ∀ (exchange : String) (d : Directory) (env : Environment) (before after : List String)
      (path : String) (bytes : List UInt8) (defs : Environment), searched env = before ++ path :: after →
        (∀ earlier ∈ before, ¬ IsThere d earlier) → d.find path = .ok (.file bytes) →
          Defines env (lines ⟨bytes, none⟩) defs →
            ofFirstFile exchange d.opening env = (ofEnvironment exchange (env ++ defs)).mapError .error := by
  intro always
  let long := String.ofList (List.replicate 256 'x')
  let d := closedDirectory [(".env", EnvironmentFile.twoKeys.bytes)]
  have tooLong : d.find (".env." ++ long) = .error .nameTooLong := by
    have size : long.utf8ByteSize = 256 := Directory.utf8ByteSize_replicate (by decide) 256
    have only : ∀ c ∈ long.toList, c = 'x' := fun c member =>
      List.eq_of_mem_replicate (String.toList_ofList ▸ member)
    have is : Directory.IsName (".env." ++ long) :=
      Directory.isName_env (fun zero => absurd (only _ zero) (by decide))
        (fun slash => absurd (only _ slash) (by decide)) (by rw [size]; decide)
    rw [Directory.find_of_isName is, String.utf8ByteSize_append, size, if_pos (by decide)]
  have absent : d.find ".env.local" = .error .missing := by
    rw [Directory.find_of_isName ⟨by decide, by decide, by decide, by decide⟩]
    rfl
  have shared : d.find ".env" = .ok (.file EnvironmentFile.twoKeys.bytes) := by
    rw [Directory.find_of_isName ⟨by decide, by decide, by decide, by decide⟩]
    rfl
  have opened := Directory.opening_of_nameTooLong tooLong
  have ended : IsFirst d.opening [("ENVIRONMENT", long)] [".env.local"] (".env." ++ long) :=
    ⟨⟨[".env"], rfl⟩, by simpa using Directory.opening_of_missing absent, by simp [opened]⟩
  have refused := (ended.precedence "a").refused _ opened
  have accepted := always "a" d [("ENVIRONMENT", long)] [".env.local", ".env." ++ long] [] ".env" _ _ rfl
    (by simp [IsThere, absent, tooLong]) shared (EnvironmentFile.twoKeys_defines _)
  have capital : Text.upper "a" = "A" := by decide
  have keys : ofEnvironment "a" ([("ENVIRONMENT", long)] ++ [("A_API_KEY", "1"), ("A_SECRET_KEY", "2")]) =
      .ok (ofKeys "1" "2") := by
    apply ofEnvironment_of_keys <;> simp [capital, Environment.get?]
  rw [refused, keys] at accepted
  cases accepted

end Settings

end MarketGateway
