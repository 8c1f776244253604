import MarketGateway.Proofs.Json.ComesBack
import MarketGateway.Proofs.Signing.SecretKeys
import MarketGateway.Settings.Environment

/-!
# Changes of settings

Settings are made from keys, from variables or from JSON, and are then changed one at a time. The window stays one
that the exchange accepts, whatever the changes, and all settings but the keys come back from what is written of
them: `settings_stay_valid`.
-/

namespace MarketGateway

open Json (ComesBack Fits Reordered)

theorem MarketKind.comesBack {depth : Nat} (k : MarketKind) : ComesBack depth read k.toJson k := by
  cases k <;> exact .unit rfl

namespace Settings

variable {s s' t : Settings} {ms : Nat}

/-! ### Windows -/

/-- The exchange accepts the window. -/
def Allowed (ms : Nat) : Prop := 1 ≤ ms ∧ ms ≤ 60000

instance (ms : Nat) : Decidable (Allowed ms) := inferInstanceAs (Decidable (_ ∧ _))

theorem isWindow_iff : isWindow ms = true ↔ Allowed ms := by
  rw [isWindow, Bool.and_eq_true, decide_eq_true_eq, decide_eq_true_eq]
  rfl

theorem withWindow_of_allowed (allowed : Allowed ms) : s.withWindow ms = .ok { s with windowMs := ms } :=
  if_pos (isWindow_iff.mpr allowed)

theorem withWindow_of_not_allowed (refused : ¬ Allowed ms) : s.withWindow ms = .error (.invalid (.window ms)) :=
  if_neg fun window => refused (isWindow_iff.mp window)

theorem withWindow_eq_ok_iff : s.withWindow ms = .ok s' ↔ Allowed ms ∧ s' = { s with windowMs := ms } := by
  by_cases allowed : Allowed ms
  · rw [withWindow_of_allowed allowed]
    constructor
    · rintro ⟨⟩
      exact ⟨allowed, rfl⟩
    · rintro ⟨-, rfl⟩
      rfl
  · rw [withWindow_of_not_allowed allowed]
    exact ⟨nofun, fun accepted => absurd accepted.1 allowed⟩

theorem credentials_eq (allowed : Allowed s.windowMs) :
    s.credentials = (Credentials.make s.apiKey s.secretKey).map fun c => { c with windowMs := s.windowMs } := by
  have accepted : ∀ c : Credentials, c.withWindow s.windowMs = .ok { c with windowMs := s.windowMs } :=
    fun c => if_pos (isWindow_iff.mpr allowed)
  rw [credentials]
  cases Credentials.make s.apiKey s.secretKey with
  | ok c => exact accepted c
  | error cause => rfl

theorem make_ne_window (apiKey secretKey : String) (ms : Nat) :
    Credentials.make apiKey secretKey ≠ .error (.window ms) := by
  rw [Credentials.make]
  rcases SigningKey.ofText_cases secretKey with ⟨key, read, -⟩ | ⟨cause, refused, why⟩
  · rw [read]
    by_cases empty : (Text.trim apiKey).isEmpty = true
    · simp [bind, Except.bind, empty, throw, throwThe, MonadExceptOf.throw]
    · simp [bind, Except.bind, empty, pure, Except.pure]
  · rw [refused]
    intro same
    cases why with
    | encoding e foreign => cases same
    | length bytes encoded other => cases same

theorem credentials_ne_window (allowed : Allowed s.windowMs) (ms : Nat) : s.credentials ≠ .error (.window ms) := by
  rw [credentials_eq allowed]
  cases made : Credentials.make s.apiKey s.secretKey with
  | ok c => nofun
  | error cause =>
    intro same
    obtain rfl := Except.error.inj same
    exact make_ne_window _ _ _ made

/-! ### Making -/

/-- The settings that are made from keys, variables, files of variables or JSON. -/
inductive Made : Settings → Prop where
  | ofKeys (apiKey secretKey : String) : Made (ofKeys apiKey secretKey)
  | readOnly : Made readOnly
  | ofEnvironment {exchange : String} {env : Environment} {s : Settings}
      (read : ofEnvironment exchange env = .ok s) : Made s
  | ofFile {exchange path : String} {files : Files} {env : Environment} {s : Settings}
      (read : ofFile exchange files env path = .ok s) : Made s
  | ofFirstFile {exchange : String} {files : Files} {env : Environment} {s : Settings}
      (read : ofFirstFile exchange files env = .ok s) : Made s
  | read {j : Json} {s : Settings} (read : read j = .ok s) : Made s

theorem allowed_of_ofEnvironment {exchange : String} {env : Environment}
    (read : ofEnvironment exchange env = .ok s) : Allowed s.windowMs := by
  simp only [ofEnvironment, bind_eq_ok] at read
  obtain ⟨apiKey, -, secretKey, -, windowMs, -, kind, -, windowed, accepted, same⟩ := read
  obtain ⟨allowed, rfl⟩ := withWindow_eq_ok_iff.mp accepted
  obtain rfl := Except.ok.inj same
  exact allowed

theorem allowed_of_mapError {exchange : String} {env : Environment}
    (read : (ofEnvironment exchange env).mapError ReadFault.error = .ok s) : Allowed s.windowMs := by
  cases made : ofEnvironment exchange env with
  | ok t =>
    rw [made] at read
    obtain rfl := Except.ok.inj read
    exact allowed_of_ofEnvironment made
  | error e =>
    rw [made] at read
    cases read

theorem read_eq_ok_iff {j : Json} :
    read j = .ok s ↔ schema.read "ExchangeConfigHelper" j = .ok s ∧ Allowed s.windowMs := by
  rw [read, bind_eq_ok]
  constructor
  · rintro ⟨given, fields, accepted⟩
    by_cases allowed : Allowed given.windowMs
    · rw [withWindow_of_allowed allowed] at accepted
      obtain rfl := Except.ok.inj accepted
      exact ⟨fields, allowed⟩
    · rw [withWindow_of_not_allowed allowed] at accepted
      cases accepted
  · rintro ⟨fields, allowed⟩
    refine ⟨s, fields, ?_⟩
    rw [withWindow_of_allowed allowed]
    rfl

theorem Made.allowed (made : Made s) : Allowed s.windowMs := by
  cases made with
  | ofKeys apiKey secretKey => exact (by decide : Allowed defaultWindowMs)
  | readOnly => exact (by decide : Allowed defaultWindowMs)
  | ofEnvironment read => exact allowed_of_ofEnvironment read
  | ofFile read =>
    obtain ⟨_, -, read⟩ := bind_eq_ok.mp read
    exact allowed_of_mapError read
  | ofFirstFile read =>
    obtain ⟨_, -, read⟩ := bind_eq_ok.mp read
    exact allowed_of_mapError read
  | read read => exact (read_eq_ok_iff.mp read).2

/-! ### Changing -/

inductive Change where
  | baseUrl (url : String)
  | wsUrl (url : String)
  | window (ms : Nat)
  | marketKind (kind : MarketKind)

namespace Change

def baseUrl? : Change → Option String
  | .baseUrl url => some url
  | _ => none

def wsUrl? : Change → Option String
  | .wsUrl url => some url
  | _ => none

def windowMs? : Change → Option Nat
  | .window ms => some ms
  | _ => none

def marketKind? : Change → Option MarketKind
  | .marketKind kind => some kind
  | _ => none

end Change

def change (s : Settings) : Change → Except ConfigError Settings
  | .baseUrl url => .ok (s.withBaseUrl url)
  | .wsUrl url => .ok (s.withWsUrl url)
  | .window ms => s.withWindow ms
  | .marketKind kind => .ok (s.withMarketKind kind)

/-- One change after the other, up to the first that is refused. -/
def changeAll (s : Settings) (changes : List Change) : Except ConfigError Settings := changes.foldlM change s

/-- The windows that are asked for. -/
def windows (changes : List Change) : List Nat := changes.filterMap Change.windowMs?

def firstRefused? (changes : List Change) : Option Nat := (windows changes).find? fun ms => ¬ Allowed ms

/-- Each setting is what the last change of it has made it, and one that no change is about is kept. -/
structure Changed (s : Settings) (changes : List Change) (s' : Settings) : Prop where
  apiKey : s'.apiKey = s.apiKey
  secretKey : s'.secretKey = s.secretKey
  baseUrl : s'.baseUrl = ((changes.filterMap Change.baseUrl?).map some).getLastD s.baseUrl
  wsUrl : s'.wsUrl = ((changes.filterMap Change.wsUrl?).map some).getLastD s.wsUrl
  windowMs : s'.windowMs = (windows changes).getLastD s.windowMs
  marketKind : s'.marketKind = (changes.filterMap Change.marketKind?).getLastD s.marketKind

variable {c : Change} {changes later : List Change} {e : ConfigError}

theorem Changed.refl (s : Settings) : Changed s [] s := ⟨rfl, rfl, rfl, rfl, rfl, rfl⟩

theorem Changed.unique (first : Changed s changes s') (second : Changed s changes t) : s' = t := by
  obtain ⟨apiKey, secretKey, baseUrl, wsUrl, windowMs, marketKind⟩ := s'
  obtain ⟨apiKey', secretKey', baseUrl', wsUrl', windowMs', marketKind'⟩ := t
  obtain ⟨rfl, rfl, rfl, rfl, rfl, rfl⟩ := first
  obtain ⟨rfl, rfl, rfl, rfl, rfl, rfl⟩ := second
  rfl

theorem getLastD_append {α : Type} (values later : List α) (given : α) :
    (values ++ later).getLastD given = later.getLastD (values.getLastD given) := by
  simp only [List.getLastD_eq_getLast?, List.getLast?_append, Option.getD_or]

theorem Changed.append (first : Changed s changes s') (rest : Changed s' later t) :
    Changed s (changes ++ later) t where
  apiKey := rest.apiKey.trans first.apiKey
  secretKey := rest.secretKey.trans first.secretKey
  baseUrl := by rw [rest.baseUrl, first.baseUrl, List.filterMap_append, List.map_append, getLastD_append]
  wsUrl := by rw [rest.wsUrl, first.wsUrl, List.filterMap_append, List.map_append, getLastD_append]
  windowMs := by rw [rest.windowMs, first.windowMs, windows, windows, windows, List.filterMap_append, getLastD_append]
  marketKind := by rw [rest.marketKind, first.marketKind, List.filterMap_append, getLastD_append]

/-- A change is refused only for its window. -/
theorem change_cases (s : Settings) (c : Change) :
    (∃ ms, c.windowMs? = some ms ∧ ¬ Allowed ms ∧ s.change c = .error (.invalid (.window ms))) ∨
      ∃ s', s.change c = .ok s' ∧ (∀ ms, c.windowMs? = some ms → Allowed ms) ∧ Changed s [c] s' := by
  cases c with
  | baseUrl url => exact .inr ⟨_, rfl, nofun, ⟨rfl, rfl, rfl, rfl, rfl, rfl⟩⟩
  | wsUrl url => exact .inr ⟨_, rfl, nofun, ⟨rfl, rfl, rfl, rfl, rfl, rfl⟩⟩
  | window ms =>
    by_cases allowed : Allowed ms
    · refine .inr ⟨_, withWindow_of_allowed allowed, fun ms' same => ?_, ⟨rfl, rfl, rfl, rfl, rfl, rfl⟩⟩
      exact Option.some.inj same ▸ allowed
    · exact .inl ⟨ms, rfl, allowed, withWindow_of_not_allowed allowed⟩
  | marketKind kind => exact .inr ⟨_, rfl, nofun, ⟨rfl, rfl, rfl, rfl, rfl, rfl⟩⟩

theorem windows_cons (c : Change) (changes : List Change) :
    windows (c :: changes) = c.windowMs?.toList ++ windows changes := by
  rw [windows, List.filterMap_cons]
  cases c.windowMs? <;> rfl

theorem firstRefused?_cons_of_not_allowed (asks : c.windowMs? = some ms) (refused : ¬ Allowed ms) :
    firstRefused? (c :: changes) = some ms := by
  rw [firstRefused?, windows_cons, asks]
  exact List.find?_cons_of_pos (decide_eq_true refused)

theorem firstRefused?_cons_of_allowed (allowed : ∀ ms, c.windowMs? = some ms → Allowed ms) :
    firstRefused? (c :: changes) = firstRefused? changes := by
  rw [firstRefused?, windows_cons]
  cases asks : c.windowMs? with
  | none => rfl
  | some ms =>
    refine List.find?_cons_of_neg fun refused => ?_
    exact of_decide_eq_true refused (allowed ms asks)

theorem mem_of_firstRefused (first : firstRefused? changes = some ms) : ms ∈ windows changes ∧ ¬ Allowed ms := by
  have refused := List.find?_some first
  exact ⟨List.mem_of_find?_eq_some first, of_decide_eq_true refused⟩

theorem changeAll_cases (s : Settings) (changes : List Change) :
    (∃ ms, firstRefused? changes = some ms ∧
      s.changeAll changes = .error (.invalid (.window ms))) ∨
    ∃ s', s.changeAll changes = .ok s' ∧ (∀ ms ∈ windows changes, Allowed ms) ∧ Changed s changes s' := by
  -- A refused change ends the chain; after any other one the rest starts from what it has given.
  induction changes generalizing s with
  | nil => exact .inr ⟨s, rfl, nofun, .refl s⟩
  | cons c changes ih =>
    rcases change_cases s c with ⟨ms, asks, refused, same⟩ | ⟨middle, same, allowed, changed⟩
    · refine .inl ⟨ms, firstRefused?_cons_of_not_allowed asks refused, ?_⟩
      rw [changeAll, List.foldlM_cons, same]
      rfl
    · have run : s.changeAll (c :: changes) = middle.changeAll changes := by
        rw [changeAll, List.foldlM_cons, same]
        rfl
      rw [run, firstRefused?_cons_of_allowed allowed]
      rcases ih middle with first | ⟨s', later, allowed', changed'⟩
      · exact .inl first
      · refine .inr ⟨s', later, ?_, changed.append changed'⟩
        rw [windows_cons]
        exact List.forall_mem_append.mpr ⟨fun ms listed => allowed ms (Option.mem_toList.mp listed), allowed'⟩

theorem changeAll_eq_ok_iff : s.changeAll changes = .ok s' ↔
    (∀ ms ∈ windows changes, Allowed ms) ∧ Changed s changes s' := by
  rcases changeAll_cases s changes with ⟨ms, first, same⟩ | ⟨t, same, allowed, changed⟩
  · rw [same]
    refine ⟨nofun, fun accepted => ?_⟩
    obtain ⟨asked, refused⟩ := mem_of_firstRefused first
    exact absurd (accepted.1 ms asked) refused
  · rw [same]
    constructor
    · rintro ⟨⟩
      exact ⟨allowed, changed⟩
    · rintro ⟨-, changed'⟩
      exact congrArg Except.ok (changed.unique changed')

theorem changeAll_eq_error_iff : s.changeAll changes = .error e ↔
    ∃ ms, firstRefused? changes = some ms ∧ e = .invalid (.window ms) := by
  rcases changeAll_cases s changes with ⟨ms, first, same⟩ | ⟨t, same, allowed, -⟩
  · rw [same, first]
    constructor
    · rintro ⟨⟩
      exact ⟨ms, rfl, rfl⟩
    · rintro ⟨_, ⟨⟩, rfl⟩
      rfl
  · rw [same]
    refine ⟨nofun, ?_⟩
    rintro ⟨ms, first, -⟩
    obtain ⟨asked, refused⟩ := mem_of_firstRefused first
    exact absurd (allowed ms asked) refused

theorem changeAll_singleton (s : Settings) (c : Change) : s.changeAll [c] = s.change c := by
  rw [changeAll, List.foldlM_cons]
  exact bind_pure (s.change c)

theorem change_eq_ok_iff : s.change c = .ok s' ↔
    (∀ ms, c.windowMs? = some ms → Allowed ms) ∧ Changed s [c] s' := by
  rw [← changeAll_singleton, changeAll_eq_ok_iff, windows_cons]
  simp [windows]

theorem change_eq_error_iff : s.change c = .error e ↔
    ∃ ms, c.windowMs? = some ms ∧ ¬ Allowed ms ∧ e = .invalid (.window ms) := by
  have first : ∀ ms, firstRefused? [c] = some ms ↔ c.windowMs? = some ms ∧ ¬ Allowed ms := by
    intro ms
    rw [firstRefused?, windows_cons]
    cases c.windowMs? with
    | none => simp [windows]
    | some asked =>
      simp only [windows, List.filterMap_nil, List.append_nil, Option.toList_some, List.find?_singleton,
        decide_eq_true_eq, Option.ite_none_right_eq_some, Option.some.injEq]
      constructor
      · rintro ⟨refused, rfl⟩
        exact ⟨rfl, refused⟩
      · rintro ⟨rfl, refused⟩
        exact ⟨refused, rfl⟩
  simp only [← changeAll_singleton, changeAll_eq_error_iff, first, and_assoc]

theorem allowed_of_change (allowed : Allowed s.windowMs) (accepted : s.change c = .ok s') : Allowed s'.windowMs := by
  cases c with
  | window ms =>
    obtain ⟨fine, rfl⟩ := withWindow_eq_ok_iff.mp accepted
    exact fine
  | _ =>
    obtain rfl := Except.ok.inj accepted
    exact allowed

theorem allowed_of_changeAll (allowed : Allowed s.windowMs) (accepted : s.changeAll changes = .ok s') :
    Allowed s'.windowMs := by
  induction changes generalizing s with
  | nil =>
    obtain rfl := Except.ok.inj accepted
    exact allowed
  | cons c changes ih =>
    obtain ⟨middle, stepped, rest⟩ := bind_eq_ok.mp accepted
    exact ih (allowed_of_change allowed stepped) rest

/-! ### Keys -/

def withKeys (s : Settings) (apiKey secretKey : String) : Settings := { s with apiKey, secretKey }

/-- No change looks at the keys. -/
theorem change_withKeys (s : Settings) (apiKey secretKey : String) (c : Change) :
    (s.withKeys apiKey secretKey).change c = (s.change c).map fun s' => s'.withKeys apiKey secretKey := by
  cases c with
  | window ms =>
    by_cases allowed : Allowed ms
    · rw [change, change, withWindow_of_allowed allowed, withWindow_of_allowed allowed]
      rfl
    · rw [change, change, withWindow_of_not_allowed allowed, withWindow_of_not_allowed allowed]
      rfl
  | _ => rfl

theorem changeAll_withKeys (s : Settings) (apiKey secretKey : String) (changes : List Change) :
    (s.withKeys apiKey secretKey).changeAll changes =
      (s.changeAll changes).map fun s' => s'.withKeys apiKey secretKey := by
  induction changes generalizing s with
  | nil => rfl
  | cons c changes ih =>
    show (s.withKeys apiKey secretKey).change c >>= (fun t => t.changeAll changes) =
      (s.change c >>= fun t => t.changeAll changes).map _
    rw [change_withKeys]
    cases s.change c with
    | ok t => exact ih t
    | error e => rfl

/-! ### Written settings -/

/-- All settings but the keys come back from what is written of them. -/
theorem comesBack (depth : Nat) (allowed : Allowed s.windowMs) :
    ComesBack (depth + 1) read s.toJson (s.withKeys "[REDACTED]" "[REDACTED]") := by
  have small : s.windowMs < 2 ^ 64 := Nat.lt_of_le_of_lt allowed.2 (by decide)
  have fields : ComesBack (depth + 1) (schema.read "ExchangeConfigHelper") s.toJson
      (s.withKeys "[REDACTED]" "[REDACTED]") := by
    refine Fits.comesBack ?_ (by decide) rfl
    exact .seq (.seq (.seq (.seq (.seq (.map _
      (.required rfl (.text "[REDACTED]")))
      (.required rfl (.text "[REDACTED]")))
      (.optional rfl (fun url _ => .text url) nofun))
      (.optional rfl (fun url _ => .text url) nofun))
      (.given rfl (.uint64 small) nofun))
      (.withDefault rfl s.marketKind.comesBack)
  exact ⟨fields.readable, read_eq_ok_iff.mpr ⟨fields.reads, allowed⟩⟩

/-- The window is one that the exchange accepts, so credentials are never refused for it; a change sets its own
setting or is refused for its window; what is written does not depend on the keys, and gives back all the rest. -/
theorem settings_stay_valid :
    (∀ (start : Settings) changes s, Made start → start.changeAll changes = .ok s →
      (1 ≤ s.windowMs ∧ s.windowMs ≤ 60000) ∧
      s.credentials = (Credentials.make s.apiKey s.secretKey).map (fun c => { c with windowMs := s.windowMs }) ∧
      (∀ ms, s.credentials ≠ .error (.window ms)) ∧
      ∀ written, Reordered written s.toJson → ∃ value, Json.parse? written.render = some value ∧
        read value = .ok (s.withKeys "[REDACTED]" "[REDACTED]")) ∧
    (∀ (s : Settings) c,
      (∀ s', s.change c = .ok s' ↔ (∀ ms, c.windowMs? = some ms → 1 ≤ ms ∧ ms ≤ 60000) ∧ Changed s [c] s') ∧
      ∀ e, s.change c = .error e ↔
        ∃ ms, c.windowMs? = some ms ∧ ¬ (1 ≤ ms ∧ ms ≤ 60000) ∧ e = .invalid (.window ms)) ∧
    (∀ (s : Settings) changes,
      (∀ s', s.changeAll changes = .ok s' ↔
        (∀ ms ∈ windows changes, 1 ≤ ms ∧ ms ≤ 60000) ∧ Changed s changes s') ∧
      ∀ e, s.changeAll changes = .error e ↔
        ∃ ms, firstRefused? changes = some ms ∧ e = .invalid (.window ms)) ∧
    ∀ (s : Settings) apiKey secretKey changes,
      (s.withKeys apiKey secretKey).toJson = s.toJson ∧
      ((s.withKeys apiKey secretKey).changeAll changes).map toJson = (s.changeAll changes).map toJson := by
  refine ⟨fun start changes s made accepted => ?_,
    fun s c => ⟨fun s' => change_eq_ok_iff, fun e => change_eq_error_iff⟩,
    fun s changes => ⟨fun s' => changeAll_eq_ok_iff, fun e => changeAll_eq_error_iff⟩,
    fun s apiKey secretKey changes => ⟨rfl, ?_⟩⟩
  · have allowed := allowed_of_changeAll made.allowed accepted
    exact ⟨allowed, credentials_eq allowed, credentials_ne_window allowed,
      fun written reordered => (comesBack _ allowed).parse? reordered⟩
  · rw [changeAll_withKeys]
    cases s.changeAll changes <;> rfl

/-- Settings are read with the longest window and then changed. -/
theorem settings_stay_valid_read :
    ∃ start s : Settings,
      read (.ofMembers [("api_key", .string "key"), ("secret_key", .string "seed"), ("window_ms", .nat 60000)]) =
        .ok start ∧
      start.changeAll [.window 1, .marketKind .perpetual, .baseUrl "https://a"] = .ok s ∧
      (∀ ms, s.credentials ≠ .error (.window ms)) ∧
      (∃ value, Json.parse? s.toJson.render = some value ∧
        read value = .ok ⟨"[REDACTED]", "[REDACTED]", some "https://a", none, 1, .perpetual⟩) ∧
      start.changeAll [.wsUrl "wss://b", .window 60001, .window 0] = .error (.invalid (.window 60001)) := by
  have opened : read (.ofMembers [("api_key", .string "key"), ("secret_key", .string "seed"),
      ("window_ms", .nat 60000)]) = .ok ⟨"key", "seed", none, none, 60000, .spot⟩ := rfl
  obtain ⟨made, -, runs, -⟩ := settings_stay_valid
  obtain ⟨-, -, credentials, back⟩ :=
    made _ [.window 1, .marketKind .perpetual, .baseUrl "https://a"] _ (.read opened) rfl
  exact ⟨_, _, opened, rfl, credentials, back _ (.same _), ((runs _ _).2 _).mpr ⟨60001, rfl, rfl⟩⟩

end Settings
end MarketGateway
