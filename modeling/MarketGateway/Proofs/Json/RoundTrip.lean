import MarketGateway.Json.Printer
import MarketGateway.Proofs.Json.Integers
import MarketGateway.Proofs.Json.Members
import Mathlib.Data.List.Forall2

/-!
# Reading written JSON back

A value whose written form can be read is read back from it, in whatever order members are written:
`parse?_render_of_reordered`. Its numbers are integers of 64 bits, its objects list their members in
ascending order, and no more than 127 arrays and objects are open at once.
-/

namespace MarketGateway.Json

variable {a : Assembly} {s next : Scan} {c : Char} {cs rest sofar : List Char} {v : Json}

/-! ### Single characters -/

theorem parseFrom_skip (silent : scan s c = some (next, [])) :
    parseFrom s a (c :: cs) = parseFrom next a cs := by
  rw [parseFrom, silent]
  rfl

theorem parseFrom_token (token : Token) (complete : scan s c = some (next, [token])) :
    parseFrom s a (c :: cs) = (a.step token).bind fun a => parseFrom next a cs := by
  rw [parseFrom, complete]
  cases stepped : a.step token <;> simp [Assembly.steps, stepped]

/-! ### Strings -/

theorem hexDigit?_hexChar : ∀ n < 16, hexDigit? (hexChar n) = some n := by decide

theorem parseFrom_control (small : c.toNat < 0x20) :
    parseFrom (.text sofar) a (['\\', 'u', '0', '0', hexChar (c.toNat / 16), hexChar (c.toNat % 16)] ++
      rest) = parseFrom (.text (c :: sofar)) a rest := by
  have high := hexDigit?_hexChar (c.toNat / 16) (by omega)
  have low := hexDigit?_hexChar (c.toNat % 16) (by omega)
  have whole : c.toNat / 16 * 16 + c.toNat % 16 = c.toNat := by omega
  have ended : endCode sofar none (c.toNat / 16 * 16 + c.toNat % 16) = some (.text (c :: sofar)) := by
    rw [endCode, whole, if_neg (by omega), if_neg (by omega), Char.ofNat_toNat]
  have third : scan (.code sofar none 0 1) (hexChar (c.toNat / 16)) =
      some (.code sofar none (c.toNat / 16) 0, []) := by
    simp [scan, high]
  have fourth : scan (.code sofar none (c.toNat / 16) 0) (hexChar (c.toNat % 16)) =
      some (.text (c :: sofar), []) := by
    simp [scan, low, ended]
  have opened : scan (.text sofar) '\\' = some (.escape sofar, []) := rfl
  have first : scan (.escape sofar) 'u' = some (.code sofar none 0 3, []) := rfl
  -- The first two of the four digits are zeros.
  have zero : ∀ missing, scan (.code sofar none 0 (missing + 1)) '0' =
      some (.code sofar none 0 missing, []) := fun _ => rfl
  simp only [List.cons_append, List.nil_append]
  rw [parseFrom_skip opened, parseFrom_skip first, parseFrom_skip (zero 2), parseFrom_skip (zero 1),
    parseFrom_skip third, parseFrom_skip fourth]

theorem parseFrom_mark {mark : Char} (means : escaped? mark = some c) (short : mark ≠ 'u') :
    parseFrom (.text sofar) a (['\\', mark] ++ rest) = parseFrom (.text (c :: sofar)) a rest := by
  have opened : scan (.text sofar) '\\' = some (.escape sofar, []) := rfl
  have ended : scan (.escape sofar) mark = some (.text (c :: sofar), []) := by
    simp [scan, means, short]
  simp only [List.cons_append, List.nil_append]
  rw [parseFrom_skip opened, parseFrom_skip ended]

theorem parseFrom_escapeChar (c : Char) :
    parseFrom (.text sofar) a (escapeChar c ++ rest) = parseFrom (.text (c :: sofar)) a rest := by
  unfold escapeChar
  split
  · subst_vars; exact parseFrom_mark rfl (by decide)
  split
  · subst_vars; exact parseFrom_mark rfl (by decide)
  split
  · subst_vars; exact parseFrom_mark rfl (by decide)
  split
  · subst_vars; exact parseFrom_mark rfl (by decide)
  split
  · subst_vars; exact parseFrom_mark rfl (by decide)
  split
  · subst_vars; exact parseFrom_mark rfl (by decide)
  split
  · subst_vars; exact parseFrom_mark rfl (by decide)
  split
  · exact parseFrom_control ‹_›
  · rename_i quote backslash _ _ _ _ _ large
    have plain : scan (.text sofar) c = some (.text (c :: sofar), []) := by
      simp [scan, quote, backslash, large]
    exact parseFrom_skip plain

theorem parseFrom_escaped (cs sofar : List Char) :
    parseFrom (.text sofar) a (cs.flatMap escapeChar ++ rest) =
      parseFrom (.text (cs.reverse ++ sofar)) a rest := by
  induction cs generalizing sofar with
  | nil => rfl
  | cons c cs ih =>
    rw [List.flatMap_cons, List.append_assoc, parseFrom_escapeChar, ih, List.reverse_cons,
      List.append_assoc]
    rfl

theorem parseFrom_quote (text : String) :
    parseFrom .between a (quote text ++ rest) =
      (a.step (.text text)).bind fun a => parseFrom .between a rest := by
  have opened : scan .between '"' = some (.text [], []) := rfl
  have ended : scan (.text (text.toList.reverse ++ [])) '"' = some (.between, [.text text]) := by
    simp [scan]
  simp only [quote, List.cons_append, List.append_assoc, List.nil_append]
  rw [parseFrom_skip opened, parseFrom_escaped, parseFrom_token (.text text) ended]

/-! ### Words -/

/-- The character does not belong to the word before it. -/
def endsWord (c : Char) : Bool := isSpace c || c = '"' || (punctuation? c).isSome

/-- A word that stands in front of this is over. -/
def Apart (rest : List Char) : Prop := ∀ c, rest.head? = some c → endsWord c = true

theorem scan_fresh_word (plain : endsWord c = false) : scan .between c = some (.word [c], []) := by
  simp only [endsWord, Bool.or_eq_false_iff, decide_eq_false_iff_not, Option.isSome_eq_false_iff,
    Option.isNone_iff_eq_none] at plain
  obtain ⟨⟨space, quote⟩, punctuation⟩ := plain
  simp [scan, scanFresh, space, quote, punctuation]

theorem parseFrom_wordChars (plain : ∀ c ∈ cs, endsWord c = false) (sofar : List Char) :
    parseFrom (.word sofar) a (cs ++ rest) = parseFrom (.word (cs.reverse ++ sofar)) a rest := by
  induction cs generalizing sofar with
  | nil => rfl
  | cons c cs ih =>
    obtain ⟨here, later⟩ := List.forall_mem_cons.mp plain
    have goesOn : scan (.word sofar) c = some (.word (c :: sofar), []) :=
      if_neg (Bool.eq_false_iff.mp here)
    rw [List.cons_append, parseFrom_skip goesOn, ih later, List.reverse_cons, List.append_assoc]
    rfl

theorem parseFrom_wordEnd (read : word? sofar.reverse = some v) (apart : Apart rest) :
    parseFrom (.word sofar) a rest = (a.step (.scalar v)).bind fun a => parseFrom .between a rest := by
  cases rest with
  | nil => cases stepped : a.step (.scalar v) <;> simp [parseFrom, scanEnd, read, Assembly.steps, stepped]
  | cons c cs =>
    have ended : scan (.word sofar) c = some ((scanFresh c).1, .scalar v :: (scanFresh c).2) := by
      have ends : (isSpace c || c = '"' || (punctuation? c).isSome) = true := apart c rfl
      rw [scan, if_pos ends, read]
      rfl
    rw [parseFrom, ended]
    cases stepped : a.step (.scalar v) with
    | none => simp [Assembly.steps, stepped]
    | some b => simp [Assembly.steps, stepped, parseFrom, scan]

theorem parseFrom_word (nonempty : cs ≠ []) (plain : ∀ c ∈ cs, endsWord c = false)
    (read : word? cs = some v) (apart : Apart rest) :
    parseFrom .between a (cs ++ rest) =
      (a.step (.scalar v)).bind fun a => parseFrom .between a rest := by
  obtain ⟨c, cs, rfl⟩ := List.exists_cons_of_ne_nil nonempty
  obtain ⟨here, later⟩ := List.forall_mem_cons.mp plain
  rw [List.cons_append, parseFrom_skip (scan_fresh_word here), parseFrom_wordChars later]
  exact parseFrom_wordEnd (by simpa using read) apart

theorem endsWord_eq_false (numeral : (c.isDigit || c = '-') = true) : endsWord c = false := by
  have foreign : ([' ', '\n', '\r', '\t', '"', '[', ']', '{', '}', ',', ':'].any
      fun d => d.isDigit || d = '-') = false := by
    decide
  have others : ∀ d ∈ [' ', '\n', '\r', '\t', '"', '[', ']', '{', '}', ',', ':'], c ≠ d := by
    rintro d member rfl
    exact List.any_eq_false.mp foreign c member numeral
  simp only [List.forall_mem_cons, List.not_mem_nil, false_imp_iff, implies_true, and_true] at others
  simp [endsWord, isSpace, punctuation?, others]

theorem parseFrom_int {n : Int} (low : -2 ^ 63 ≤ n) (high : n < 2 ^ 64) (apart : Apart rest) :
    parseFrom .between a ((toString n).toList ++ rest) =
      (a.step (.scalar (.int n))).bind fun a => parseFrom .between a rest := by
  refine parseFrom_word ?_ (fun c member => endsWord_eq_false (mem_toString member))
    (word?_toString low high) apart
  rw [Text.toList_toString_int]
  exact List.append_ne_nil_of_right_ne_nil _ Nat.toDigits_ne_nil

/-! ### Values -/

/-- The written form of the value can be read, at so many levels of arrays and objects. -/
inductive Readable : Nat → Json → Prop where
  | null {depth : Nat} : Readable depth .null
  | bool {depth : Nat} (value : Bool) : Readable depth (.bool value)
  | int {depth : Nat} {n : Int} (low : -2 ^ 63 ≤ n) (high : n < 2 ^ 64) : Readable depth (.int n)
  | string {depth : Nat} (text : String) : Readable depth (.string text)
  | array {depth : Nat} {items : List Json} (each : ∀ v ∈ items, Readable depth v) :
      Readable (depth + 1) (.array items)
  | object {depth : Nat} {members : List (String × Json)}
      (ascending : Ascending members)
      (each : ∀ m ∈ members, Readable depth m.2) : Readable (depth + 1) (.object members)

/-- The first value is the second one with the members of its objects in another order. -/
inductive Reordered : Json → Json → Prop where
  | same (v : Json) : Reordered v v
  | array {items listed : List Json} (each : List.Forall₂ Reordered items listed) :
      Reordered (.array items) (.array listed)
  | object {members listed ordered : List (String × Json)}
      (keys : members.map Prod.fst = listed.map Prod.fst)
      (values : List.Forall₂ Reordered (members.map Prod.snd) (listed.map Prod.snd))
      (order : listed.Perm ordered) : Reordered (.object members) (.object ordered)

/-- A value may stand here. -/
def Expected.takesValue : Expected → Bool
  | .value | .valueOrClose => true
  | _ => false

/-- The value is read from what is written wherever there is room for it. -/
def ReadsAs (depth : Nat) (written v : Json) : Prop :=
  ∀ stack expected rest, stack.length + depth ≤ Assembly.maxDepth → expected.takesValue = true →
    Apart rest → parseFrom .between ⟨stack, expected, none⟩ (chars written ++ rest) =
      (Assembly.complete v stack).bind fun a => parseFrom .between a rest

theorem step_value {stack : List Frame} {expected : Expected} {token : Token}
    (takes : expected.takesValue = true) (other : token ≠ .closeArray) :
    Assembly.step ⟨stack, expected, none⟩ token = Assembly.beginValue stack token := by
  cases expected with
  | value => rfl
  | valueOrClose =>
    cases token with
    | closeArray => exact (other rfl).elim
    | _ => rfl
  | _ => cases takes

theorem Apart.of_head (ends : endsWord c = true) : Apart (c :: rest) := by
  rintro d same
  cases same
  exact ends

theorem readsAs_word {depth : Nat} (word : String) (written : chars v = word.toList)
    (nonempty : word.toList ≠ []) (plain : word.toList.any endsWord = false)
    (read : word? word.toList = some v) : ReadsAs depth v v := by
  intro stack expected rest _ takes apart
  have plain : ∀ c ∈ word.toList, endsWord c = false := fun c member =>
    Bool.eq_false_iff.mpr (List.any_eq_false.mp plain c member)
  rw [written, parseFrom_word nonempty plain read apart, step_value takes (by nofun)]
  rfl

/-! ### Arrays -/

section Arrays
variable {depth : Nat} {items listed : List Json} {stack : List Frame}

theorem apart_items (items : List Json) (rest : List Char) : Apart (itemChars items ++ ']' :: rest) := by
  cases items with
  | nil => exact .of_head rfl
  | cons v items => exact .of_head rfl

theorem readsAs_items (each : List.Forall₂ (ReadsAs depth) items listed)
    (room : stack.length + 1 + depth ≤ Assembly.maxDepth) (sofar : List Json) (rest : List Char) :
    parseFrom .between ⟨.items sofar :: stack, .commaOrClose, none⟩ (itemChars items ++ ']' :: rest) =
      (Assembly.complete (.array (sofar.reverse ++ listed)) stack).bind fun a =>
        parseFrom .between a rest := by
  induction each generalizing sofar with
  | nil =>
    rw [List.append_nil]
    exact parseFrom_token .closeArray rfl
  | @cons w v items listed here _ ih =>
    -- Once read, the value is one more of the items so far.
    have value := here (.items sofar :: stack) .value _ room rfl (apart_items items rest)
    have others := ih (v :: sofar)
    rw [List.reverse_cons, List.append_assoc] at others
    calc parseFrom .between ⟨.items sofar :: stack, .commaOrClose, none⟩
          (itemChars (w :: items) ++ ']' :: rest)
        = parseFrom .between ⟨.items sofar :: stack, .value, none⟩
            (chars w ++ (itemChars items ++ ']' :: rest)) := by
          rw [itemChars, List.cons_append, List.cons_append, List.append_assoc,
            parseFrom_token .comma rfl]
          rfl
      _ = parseFrom .between ⟨.items (v :: sofar) :: stack, .commaOrClose, none⟩
            (itemChars items ++ ']' :: rest) := value
      _ = _ := others

theorem push_eq {frame : Frame} {expected : Expected}
    (room : stack.length + 1 + depth ≤ Assembly.maxDepth) :
    Assembly.push frame expected stack = some ⟨frame :: stack, expected, none⟩ :=
  if_pos (by omega)

theorem readsAs_array (each : List.Forall₂ (ReadsAs depth) items listed) :
    ReadsAs (depth + 1) (.array items) (.array listed) := by
  intro stack expected rest room takes apart
  have room : stack.length + 1 + depth ≤ Assembly.maxDepth := by omega
  have opened : ∀ cs, parseFrom .between ⟨stack, expected, none⟩ ('[' :: cs) =
      parseFrom .between ⟨.items [] :: stack, .valueOrClose, none⟩ cs := by
    intro cs
    rw [parseFrom_token .openArray rfl, step_value takes (by nofun), Assembly.beginValue,
      push_eq room]
    rfl
  cases each with
  | nil =>
    rw [chars, List.cons_append, opened]
    exact parseFrom_token .closeArray rfl
  | @cons w v items listed here later =>
    have value := here (.items [] :: stack) .valueOrClose _ room rfl (apart_items items rest)
    have others := readsAs_items later room [v] rest
    rw [chars]
    simp only [List.cons_append, List.append_assoc, List.nil_append]
    rw [opened]
    exact value.trans others

end Arrays

/-! ### Objects -/

section Objects
variable {depth : Nat} {members listed ordered : List (String × Json)} {stack : List Frame}

theorem apart_members (members : List (String × Json)) (rest : List Char) :
    Apart (memberChars members ++ '}' :: rest) := by
  cases members with
  | nil => exact .of_head rfl
  | cons m members => exact .of_head rfl

/-- The member is read from the written one. -/
def MemberReadsAs (depth : Nat) (written m : String × Json) : Prop :=
  written.1 = m.1 ∧ ReadsAs depth written.2 m.2

theorem readsAs_member {expected : Expected} {written m : String × Json}
    (sofar : List (String × Json)) (takesKey : expected = .key ∨ expected = .keyOrClose)
    (reads : MemberReadsAs depth written m) (room : stack.length + 1 + depth ≤ Assembly.maxDepth)
    (apart : Apart rest) :
    parseFrom .between ⟨.members sofar :: stack, expected, none⟩
        (quote written.1 ++ (':' :: (chars written.2 ++ rest))) =
      parseFrom .between ⟨.members (setMember m.1 m.2 sofar) :: stack, .commaOrClose, none⟩ rest := by
  obtain ⟨key, value⟩ := reads
  have keyed : Assembly.step ⟨.members sofar :: stack, expected, none⟩ (.text written.1) =
      some ⟨.member sofar m.1 :: stack, .colon, none⟩ := by
    rw [key]
    rcases takesKey with rfl | rfl <;> rfl
  rw [parseFrom_quote, keyed, Option.bind_some, parseFrom_token .colon rfl]
  exact value (.member sofar m.1 :: stack) .value rest room rfl apart

theorem readsAs_members (each : List.Forall₂ (MemberReadsAs depth) members listed)
    (room : stack.length + 1 + depth ≤ Assembly.maxDepth) (sofar : List (String × Json))
    (rest : List Char) :
    parseFrom .between ⟨.members sofar :: stack, .commaOrClose, none⟩
        (memberChars members ++ '}' :: rest) =
      (Assembly.complete (.object (listed.foldl (fun sofar m => setMember m.1 m.2 sofar) sofar))
        stack).bind fun a => parseFrom .between a rest := by
  induction each generalizing sofar with
  | nil => exact parseFrom_token .closeObject rfl
  | @cons w m members listed here _ ih =>
    have member := readsAs_member sofar (.inl rfl) here room (apart_members members rest)
    have text : memberChars (w :: members) ++ '}' :: rest =
        ',' :: (quote w.1 ++ (':' :: (chars w.2 ++ (memberChars members ++ '}' :: rest)))) := by
      simp [memberChars]
    rw [text, parseFrom_token .comma rfl]
    exact member.trans (ih (setMember m.1 m.2 sofar))

theorem readsAs_object (each : List.Forall₂ (MemberReadsAs depth) members listed)
    (order : listed.Perm ordered) (ascending : Ascending ordered) :
    ReadsAs (depth + 1) (.object members) (.object ordered) := by
  intro stack expected rest room takes apart
  have room : stack.length + 1 + depth ≤ Assembly.maxDepth := by omega
  have opened : ∀ cs, parseFrom .between ⟨stack, expected, none⟩ ('{' :: cs) =
      parseFrom .between ⟨.members [] :: stack, .keyOrClose, none⟩ cs := by
    intro cs
    rw [parseFrom_token .openObject rfl, step_value takes (by nofun), Assembly.beginValue,
      push_eq room]
    rfl
  rw [← ofMembers_eq order ascending]
  cases each with
  | nil =>
    rw [chars, List.cons_append, opened]
    exact parseFrom_token .closeObject rfl
  | @cons w m members listed here later =>
    have member := readsAs_member [] (.inr rfl) here room (apart_members members rest)
    have others := readsAs_members later room (setMember m.1 m.2 []) rest
    rw [chars]
    simp only [List.cons_append, List.append_assoc, List.nil_append]
    rw [opened]
    exact member.trans others

end Objects

/-! ### Documents -/

theorem Reordered.array_inv {written : Json} {listed : List Json}
    (reordered : Reordered written (.array listed)) :
    ∃ items, written = .array items ∧ List.Forall₂ Reordered items listed := by
  cases reordered with
  | same => exact ⟨listed, rfl, List.forall₂_same.mpr fun v _ => .same v⟩
  | array each => exact ⟨_, rfl, each⟩

theorem Reordered.object_inv {written : Json} {ordered : List (String × Json)}
    (reordered : Reordered written (.object ordered)) :
    ∃ members listed, written = .object members ∧ listed.Perm ordered ∧
      List.Forall₂ (fun m n => m.1 = n.1) members listed ∧
      List.Forall₂ (fun m n => Reordered m.2 n.2) members listed := by
  cases reordered with
  | same =>
    exact ⟨ordered, ordered, rfl, .rfl, List.forall₂_same.mpr fun m _ => rfl,
      List.forall₂_same.mpr fun m _ => .same m.2⟩
  | object keys values order =>
    rw [← List.forall₂_eq_eq_eq, List.forall₂_map_left_iff, List.forall₂_map_right_iff] at keys
    rw [List.forall₂_map_left_iff, List.forall₂_map_right_iff] at values
    exact ⟨_, _, rfl, order, keys, values⟩

theorem Reordered.ofMembers {members : List (String × Json)} (distinct : Distinct members) :
    Reordered (.object members) (ofMembers members) := by
  have empty : Ascending [] := .nil
  obtain ⟨-, listed⟩ := foldl_setMember empty distinct
  exact .object rfl (List.forall₂_same.mpr fun v _ => .same v) listed.symm

theorem Readable.readsAs {depth : Nat} {written : Json} (readable : Readable depth v)
    (reordered : Reordered written v) : ReadsAs depth written v := by
  induction readable generalizing written with
  | null =>
    cases reordered
    exact readsAs_word "null" rfl (by decide) (by decide) rfl
  | bool value =>
    cases reordered
    cases value with
    | true => exact readsAs_word "true" rfl (by decide) (by decide) rfl
    | false => exact readsAs_word "false" rfl (by decide) (by decide) rfl
  | @int _ n low high =>
    cases reordered
    intro stack expected rest _ takes apart
    have written : chars (.int n) = (toString n).toList := by
      rw [Json.int, chars, Number.toText]
    rw [written, parseFrom_int low high apart, step_value takes (by nofun)]
    rfl
  | string text =>
    cases reordered
    intro stack expected rest _ takes _
    rw [chars, parseFrom_quote, step_value takes (by nofun)]
    rfl
  | array _ ih =>
    obtain ⟨items, rfl, each⟩ := reordered.array_inv
    obtain ⟨length, each⟩ := List.forall₂_iff_zip.mp each
    exact readsAs_array <| List.forall₂_iff_zip.mpr
      ⟨length, fun member => ih _ (List.of_mem_zip member).2 (each member)⟩
  | object ascending _ ih =>
    obtain ⟨members, listed, rfl, order, keys, values⟩ := reordered.object_inv
    obtain ⟨length, keys⟩ := List.forall₂_iff_zip.mp keys
    obtain ⟨-, values⟩ := List.forall₂_iff_zip.mp values
    refine readsAs_object (List.forall₂_iff_zip.mpr ⟨length, fun member => ⟨keys member, ?_⟩⟩) order
      ascending
    exact ih _ (order.mem_iff.mp (List.of_mem_zip member).2) (values member)

/-- In whatever order members are written, the value is read back. -/
theorem parse?_render_of_reordered {written : Json} (reordered : Reordered written v)
    (readable : Readable Assembly.maxDepth v) : parse? (render written) = some v := by
  have back := readable.readsAs reordered [] .value [] (Nat.le_of_eq (Nat.zero_add _)) rfl nofun
  rw [List.append_nil] at back
  rw [parse?, render, String.toList_ofList]
  exact back

theorem parse?_render (readable : Readable Assembly.maxDepth v) : parse? (render v) = some v :=
  parse?_render_of_reordered (.same v) readable

end MarketGateway.Json
