import MarketGateway.Proofs.Text.Trimming
import MarketGateway.Signing.Instruction
import Mathlib.Data.List.Nodup

/-!
# One instruction for every request

At most one end of the table fits a path, so the order of the table does not matter; what stands behind a path
and the case of the letters of its method do not matter either. Main statement: `instructions_are_unambiguous`.
-/

namespace MarketGateway.Instruction

open Text (eqIgnoreCase endsWith)

/-- The table of the exchange: the instruction for an end of a path and a method. -/
inductive Names (method : String) : String → Instruction → Prop where
  | collateral : Names method "/capital/collateral" .collateralQuery
  | balance : Names method "/capital" .balanceQuery
  | cancelAll (delete : eqIgnoreCase method "DELETE" = true) : Names method "/orders" .orderCancelAll
  | queryAll (other : eqIgnoreCase method "DELETE" = false) : Names method "/orders" .orderQueryAll
  | execute (post : eqIgnoreCase method "POST" = true) : Names method "/order" .orderExecute
  | cancel (delete : eqIgnoreCase method "DELETE" = true) : Names method "/order" .orderCancel
  | query (other : eqIgnoreCase method "POST" = false) (other' : eqIgnoreCase method "DELETE" = false) :
      Names method "/order" .orderQuery
  | fills : Names method "/fills" .fillHistoryQueryAll
  | deposits : Names method "/deposits" .depositQueryAll
  | withdrawals : Names method "/withdrawals" .withdrawalQueryAll
  | positions : Names method "/positions" .positionQuery
  | position : Names method "/position" .positionQuery
  | funding : Names method "/history/funding" .fundingHistoryQueryAll
  | pnl : Names method "/history/pnl" .pnlHistoryQueryAll
  | account : Names method "/account" .accountQuery

/-- What is left of a path without its query and without the slashes before that. -/
structure IsBare (path bare : String) : Prop where
  parts : ∃ slashes rest : String, path = bare ++ slashes ++ rest ∧ (∀ c ∈ slashes.toList, c = '/') ∧
    (rest = "" ∨ ∃ query, rest = "?" ++ query)
  noQuery : '?' ∉ bare.toList
  noSlash : bare.toList.getLast? ≠ some '/'

/-- The entry of the first end that fits; the order of a table shows here if two ends fit one path. -/
def ofTable (table : List (String × (String → Instruction))) (method path : String) : Instruction :=
  match table.find? fun e => endsWith (barePath path) e.1 with
  | some e => e.2 method
  | none => .accountQuery

variable {method method' path bare ending : String} {i : Instruction}

theorem ofRequest_eq (method path : String) : ofRequest method path = ofTable endings method path := by
  unfold ofRequest ofTable
  generalize endings.find? _ = found
  cases found <;> rfl

/-! ### Bare paths -/

theorem barePath_eq (path : String) :
    barePath path = String.ofList ((path.toList.takeWhile (· ≠ '?')).rdropWhile (· = '/')) := rfl

theorem barePath_of_isBare (isBare : IsBare path bare) : barePath path = bare := by
  obtain ⟨⟨slashes, rest, rfl, all, query⟩, noQuery, noSlash⟩ := isBare
  have before : ∀ c ∈ bare.toList ++ slashes.toList, decide (c ≠ '?') = true := by
    intro c member
    rw [decide_eq_true_eq]
    rcases List.mem_append.mp member with inside | inside
    · exact fun same => noQuery (same ▸ inside)
    · rw [all c inside]
      decide
  have behind : rest.toList.takeWhile (· ≠ '?') = [] := by
    rcases query with rfl | ⟨query, rfl⟩
    · rfl
    · rw [String.toList_append]
      rfl
  have all' : ∀ c ∈ slashes.toList, decide (c = '/') = true := fun c member => decide_eq_true (all c member)
  have stays : bare.toList.rdropWhile (· = '/') = bare.toList := by
    rw [List.rdropWhile_eq_self_iff]
    intro some slash
    rw [decide_eq_true_eq] at slash
    exact noSlash (slash ▸ List.getLast?_eq_some_getLast some)
  rw [barePath_eq, String.toList_append, String.toList_append, List.takeWhile_append_of_pos before, behind,
    List.append_nil, Text.rdropWhile_append all', stays, String.ofList_toList]

theorem barePath_isBare (path : String) : IsBare path (barePath path) := by
  let asked := path.toList.takeWhile (· ≠ '?')
  have parts : path.toList = asked.rdropWhile (· = '/') ++ asked.rtakeWhile (· = '/') ++
      path.toList.dropWhile (· ≠ '?') := by
    rw [List.rdropWhile_append_rtakeWhile, List.takeWhile_append_dropWhile]
  refine ⟨⟨String.ofList (asked.rtakeWhile (· = '/')), String.ofList (path.toList.dropWhile (· ≠ '?')), ?_, ?_, ?_⟩,
    ?_, ?_⟩
  · apply String.toList_inj.mp
    rw [String.toList_append, String.toList_append, barePath_eq, String.toList_ofList, String.toList_ofList,
      String.toList_ofList]
    exact parts
  · intro c member
    rw [String.toList_ofList] at member
    exact decide_eq_true_eq.mp (List.mem_rtakeWhile_imp (p := fun c => decide (c = '/')) member)
  · cases rest : path.toList.dropWhile (· ≠ '?') with
    | nil => exact .inl rfl
    | cons c query =>
      have mark := List.head?_dropWhile_not (· ≠ '?') path.toList
      rw [rest] at mark
      obtain rfl : c = '?' := Decidable.not_not.mp (decide_eq_false_iff_not.mp mark)
      refine .inr ⟨String.ofList query, ?_⟩
      rw [String.ofList_cons]
      rfl
  · rw [barePath_eq, String.toList_ofList]
    intro member
    have inside := List.mem_takeWhile_imp ((List.rdropWhile_prefix ..).subset member)
    simp at inside
  · rw [barePath_eq, String.toList_ofList]
    intro last
    have some : asked.rdropWhile (· = '/') ≠ [] := fun empty => by
      rw [empty] at last
      cases last
    rw [List.getLast?_eq_some_getLast some] at last
    exact List.rdropWhile_last_not _ _ some (decide_eq_true (Option.some.inj last))

/-! ### The table -/

theorem endings_nodup : (endings.map Prod.fst).Nodup := by decide

/-- No end of the table is the end of another one. -/
theorem endings_apart : ∀ e ∈ endings, ∀ e' ∈ endings, e.1.toList <:+ e'.1.toList → e.1 = e'.1 := by
  decide +kernel

theorem fitting_unique {s : String} {e e' : String × (String → Instruction)} (listed : e ∈ endings)
    (listed' : e' ∈ endings) (fits : endsWith s e.1 = true) (fits' : endsWith s e'.1 = true) : e = e' := by
  rw [endsWith, List.isSuffixOf_iff_suffix] at fits fits'
  have same : e.1 = e'.1 := by
    rcases List.suffix_or_suffix_of_suffix fits fits' with inside | inside
    · exact endings_apart e listed e' listed' inside
    · exact (endings_apart e' listed' e listed inside).symm
  exact List.inj_on_of_nodup_map endings_nodup listed listed' same

variable {table : List (String × (String → Instruction))}

theorem ofTable_of_fitting {e : String × (String → Instruction)} (same : table.Perm endings) (listed : e ∈ endings)
    (fits : endsWith (barePath path) e.1 = true) : ofTable table method path = e.2 method := by
  unfold ofTable
  cases found : table.find? fun e => endsWith (barePath path) e.1 with
  | none => exact absurd fits (List.find?_eq_none.mp found e (same.mem_iff.mpr listed))
  | some e' =>
    have listed' := same.mem_iff.mp (List.mem_of_find?_eq_some found)
    have fits' : endsWith (barePath path) e'.1 = true :=
      List.find?_some (p := fun e : String × (String → Instruction) => endsWith (barePath path) e.1) found
    rw [fitting_unique listed' listed fits' fits]

theorem ofTable_of_foreign (same : table.Perm endings)
    (foreign : ∀ e ∈ endings, endsWith (barePath path) e.1 = false) : ofTable table method path = .accountQuery := by
  unfold ofTable
  rw [List.find?_eq_none.mpr fun e listed => ne_true_of_eq_false (foreign e (same.mem_iff.mp listed))]

theorem not_post (delete : eqIgnoreCase method "DELETE" = true) : eqIgnoreCase method "POST" = false := by
  rw [eqIgnoreCase, beq_iff_eq] at delete
  rw [eqIgnoreCase, delete]
  decide

theorem names_orders (method : String) :
    Names method "/orders" (ofMethod .orderQueryAll .orderCancelAll .orderQueryAll method) := by
  unfold ofMethod
  cases delete : eqIgnoreCase method "DELETE" with
  | true =>
    rw [not_post delete]
    exact .cancelAll delete
  | false =>
    rw [if_neg Bool.false_ne_true, ite_self]
    exact .queryAll delete

theorem names_order (method : String) :
    Names method "/order" (ofMethod .orderExecute .orderCancel .orderQuery method) := by
  unfold ofMethod
  cases post : eqIgnoreCase method "POST" with
  | true => exact .execute post
  | false =>
    cases delete : eqIgnoreCase method "DELETE" with
    | true => exact .cancel delete
    | false => exact .query post delete

theorem names_of_listed (method : String) : ∀ e ∈ endings, Names method e.1 (e.2 method) := by
  simp only [endings, List.forall_mem_cons]
  exact ⟨.collateral, .balance, names_orders method, names_order method, .fills, .deposits, .withdrawals,
    .positions, .position, .funding, .pnl, .account, nofun⟩

theorem listed_of_names (named : Names method ending i) : ∃ e ∈ endings, e.1 = ending ∧ e.2 method = i := by
  cases named with
  | cancelAll delete => simp [endings, ofMethod, delete, not_post delete]
  | queryAll other => simp [endings, ofMethod, other]
  | execute post => simp [endings, ofMethod, post]
  | cancel delete => simp [endings, ofMethod, delete, not_post delete]
  | query other other' => simp [endings, ofMethod, other, other']
  | _ => simp [endings]

theorem ofRequest_of_names (named : Names method ending i) (fits : endsWith (barePath path) ending = true) :
    ofRequest method path = i := by
  obtain ⟨e, listed, rfl, rfl⟩ := listed_of_names named
  rw [ofRequest_eq, ofTable_of_fitting (.refl endings) listed fits]

theorem ofTable_perm (same : table.Perm endings) : ofTable table method path = ofRequest method path := by
  by_cases foreign : ∀ e ∈ endings, endsWith (barePath path) e.1 = false
  · rw [ofRequest_eq, ofTable_of_foreign same foreign, ofTable_of_foreign (.refl endings) foreign]
  · simp only [not_forall, Bool.not_eq_false] at foreign
    obtain ⟨e, listed, fits⟩ := foreign
    rw [ofRequest_eq, ofTable_of_fitting same listed fits, ofTable_of_fitting (.refl endings) listed fits]

/-! ### What does not matter -/

theorem ofMethod_recased (same : eqIgnoreCase method' method = true) (post delete other : Instruction) :
    ofMethod post delete other method' = ofMethod post delete other method := by
  rw [eqIgnoreCase, beq_iff_eq] at same
  have each : ∀ name, eqIgnoreCase method' name = eqIgnoreCase method name := by
    intro name
    rw [eqIgnoreCase, same, eqIgnoreCase]
  unfold ofMethod
  rw [each, each]

theorem ofRequest_recased (same : eqIgnoreCase method' method = true) (path : String) :
    ofRequest method' path = ofRequest method path := by
  have entries : ∀ e ∈ endings, e.2 method' = e.2 method := by
    simp [endings, ofMethod_recased same]
  unfold ofRequest
  cases found : endings.find? fun e => endsWith (barePath path) e.1 with
  | none => rfl
  | some e => exact entries e (List.mem_of_find?_eq_some found)

theorem barePath_behind {slashes : String} (query : String) (plain : '?' ∉ path.toList)
    (all : ∀ c ∈ slashes.toList, c = '/') : barePath (path ++ slashes ++ "?" ++ query) = barePath path := by
  obtain ⟨⟨slashes', rest, same, all', asked⟩, noQuery, noSlash⟩ := barePath_isBare path
  have none : rest = "" := by
    refine asked.resolve_right ?_
    rintro ⟨query, rfl⟩
    rw [same] at plain
    simp at plain
  subst none
  refine barePath_of_isBare ⟨⟨slashes' ++ slashes, "?" ++ query, ?_, ?_, .inr ⟨query, rfl⟩⟩, noQuery, noSlash⟩
  · rw [String.append_empty] at same
    rw [← String.append_assoc, ← String.append_assoc, ← same]
  · intro c member
    rw [String.toList_append, List.mem_append] at member
    exact member.elim (all' c) (all c)

/-- The instruction of a request is that of the one entry of the table whose end the bare path has, or that of the
account. Neither the order of the table nor a query, slashes before it or the case of the method change it. -/
theorem instructions_are_unambiguous (method path : String) :
    IsBare path (barePath path) ∧
    (∀ ending ending' i i', Names method ending i → Names method ending' i' →
      endsWith (barePath path) ending = true → endsWith (barePath path) ending' = true →
      ending = ending' ∧ i = i') ∧
    (∀ table, table.Perm endings → ofTable table method path = ofRequest method path) ∧
    (∀ ending i, Names method ending i → endsWith (barePath path) ending = true → ofRequest method path = i) ∧
    ((∀ ending i, Names method ending i → endsWith (barePath path) ending = false) →
      ofRequest method path = .accountQuery) ∧
    ∀ slashes query method', '?' ∉ path.toList → (∀ c ∈ slashes.toList, c = '/') →
      eqIgnoreCase method' method = true →
      ofRequest method' (path ++ slashes ++ "?" ++ query) = ofRequest method path := by
  refine ⟨barePath_isBare path, ?_, fun table => ofTable_perm, fun ending i => ofRequest_of_names, ?_, ?_⟩
  · intro ending ending' i i' named named' fits fits'
    obtain ⟨e, listed, rfl, rfl⟩ := listed_of_names named
    obtain ⟨e', listed', rfl, rfl⟩ := listed_of_names named'
    obtain rfl := fitting_unique listed listed' fits fits'
    exact ⟨rfl, rfl⟩
  · intro foreign
    rw [ofRequest_eq]
    exact ofTable_of_foreign (.refl endings) fun e listed => foreign _ _ (names_of_listed method e listed)
  · intro slashes query method' plain all same
    rw [ofRequest_recased same, ofRequest_eq, ofRequest_eq, ofTable, ofTable, barePath_behind query plain all]

/-- The query holds another end of the table, the table is turned round, and the last path has no end of it. -/
theorem instructions_are_unambiguous_turned :
    ofRequest "pOsT" "/api/v1/order//?symbol=/capital" = .orderExecute ∧
      ofTable endings.reverse "GET" "/wapi/v1/capital/collateral/" = .collateralQuery ∧
      ofRequest "DELETE" "/api/v1/orders/open" = .accountQuery := by
  obtain ⟨-, -, -, named, -, behind⟩ := instructions_are_unambiguous "POST" "/api/v1/order"
  obtain ⟨-, -, turned, named', -, -⟩ := instructions_are_unambiguous "GET" "/wapi/v1/capital/collateral/"
  obtain ⟨-, -, -, -, foreign, -⟩ := instructions_are_unambiguous "DELETE" "/api/v1/orders/open"
  refine ⟨?_, ?_, foreign fun ending i named => ?_⟩
  · have slashes : ∀ c ∈ ['/', '/'], c = '/' := by simp
    have same := behind "//" "symbol=/capital" "pOsT" (by decide) slashes (by decide)
    exact same.trans (named "/order" _ (.execute (by decide)) (by decide +kernel))
  · exact (turned _ endings.reverse_perm).trans (named' _ _ .collateral (by decide +kernel))
  · obtain ⟨e, listed, rfl, -⟩ := listed_of_names named
    have none : ∀ e ∈ endings, endsWith (barePath "/api/v1/orders/open") e.1 = false := by decide +kernel
    exact none e listed

end MarketGateway.Instruction
