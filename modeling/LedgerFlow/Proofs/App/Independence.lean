import LedgerFlow.Proofs.App.Parts
import LedgerFlow.Proofs.Spec.Distinct
import Mathlib.Data.List.Basic
import Mathlib.Data.List.Forall2

/-!
Transactions compile independently. What a transaction adds to an application depends on nothing but
the expanded documents, the settings and the identity attributes of the contract, and an application
is the sum of what its transactions add.
-/
namespace LedgerFlow
open Schema

def ownSchemas (context : Context) (t : Transaction) : Except Error (Option HandlerSchemas) :=
  if context.settings.includeSchemas then (handlerSchemas context.documents t).map some
    else .ok none

/-- What a transaction adds to an application: its handler, its flow and what the flow exports. -/
structure Share where
  handler : Handler
  flow : Flow
  exports : List Export

def Share.ofTransaction (context : Context) (c : Contract)
    (t : Transaction) : Except Error Share := do
  let schemas ← ownSchemas context t
  let compiled ← (compileTransaction context c schemas t).result
  return ⟨.ofTransaction context.settings t schemas, compiled.1, compiled.2⟩

variable {context : Context} {c : Contract}

theorem Share.ofTransaction_ok_iff {t : Transaction} {share : Share} :
    Share.ofTransaction context c t = .ok share ↔ ∃ schemas, ownSchemas context t = .ok schemas ∧
      (compileTransaction context c schemas t).result = .ok (share.flow, share.exports) ∧
      Handler.ofTransaction context.settings t schemas = share.handler := by
  obtain ⟨handler, flow, exports⟩ := share
  unfold Share.ofTransaction
  simp only [bind_eq_ok_iff, pure, Except.pure, Except.ok.injEq, Share.mk.injEq]
  constructor
  · rintro ⟨schemas, own, compiled, hcompiled, rfl, rfl, rfl⟩
    exact ⟨schemas, own, hcompiled, rfl⟩
  · rintro ⟨schemas, own, hcompiled, rfl⟩
    exact ⟨schemas, own, _, hcompiled, rfl, rfl, rfl⟩

/-! The schemas of all handlers are gathered before any flow is compiled; under distinct names each
transaction finds its own among them. -/

def FindsOwn (context : Context) (schemas : Option (Table HandlerSchemas))
    (t : Transaction) : Prop :=
  ownSchemas context t = .ok (schemas.bind (·.get? t.name))

theorem transactionSchemas_ok {documents : Table Json} {transactions : List Transaction}
    {pairs : List (String × HandlerSchemas)}
    (h : transactionSchemas documents transactions = .ok pairs) :
    Table.keys pairs = transactions.map (·.name) ∧
      ∀ t ∈ transactions, ∃ schemas, handlerSchemas documents t = .ok schemas ∧
        (t.name, schemas) ∈ pairs := by
  induction transactions generalizing pairs with
  | nil =>
    obtain rfl := Except.ok.inj h
    exact ⟨rfl, by simp⟩
  | cons t rest ih =>
    obtain ⟨schemas, hschemas, h⟩ := bind_eq_ok_iff.mp h
    obtain ⟨later, hlater, h⟩ := bind_eq_ok_iff.mp h
    obtain rfl := Except.ok.inj h
    obtain ⟨keys, found⟩ := ih hlater
    refine ⟨congrArg _ keys, List.forall_mem_cons.mpr
      ⟨⟨schemas, hschemas, List.mem_cons_self⟩, fun u hu => ?_⟩⟩
    obtain ⟨own, hown, hmem⟩ := found u hu
    exact ⟨own, hown, List.mem_cons_of_mem _ hmem⟩

theorem exists_transactionSchemas {documents : Table Json} {transactions : List Transaction}
    (h : ∀ t ∈ transactions, ∃ schemas, handlerSchemas documents t = .ok schemas) :
    ∃ pairs, transactionSchemas documents transactions = .ok pairs := by
  induction transactions with
  | nil => exact ⟨[], rfl⟩
  | cons t rest ih =>
    obtain ⟨⟨schemas, hschemas⟩, later⟩ := List.forall_mem_cons.mp h
    obtain ⟨pairs, hpairs⟩ := ih later
    exact ⟨_, bind_eq_ok_iff.mpr ⟨schemas, hschemas, bind_eq_ok_iff.mpr ⟨pairs, hpairs, rfl⟩⟩⟩

theorem findsOwn_of_contractSchemas {transactions : List Transaction}
    {schemas : Option (Table HandlerSchemas)} (distinct : (transactions.map (·.name)).Nodup)
    (h : contractSchemas context.settings context.documents transactions = .ok schemas) :
    ∀ t ∈ transactions, FindsOwn context schemas t := by
  intro t ht
  unfold contractSchemas at h
  unfold FindsOwn ownSchemas
  split at h
  · rename_i included
    obtain ⟨pairs, hpairs, rfl⟩ := map_eq_ok_iff.mp h
    obtain ⟨keys, found⟩ := transactionSchemas_ok hpairs
    obtain ⟨own, hown, hmem⟩ := found t ht
    have distinct : (Table.keys pairs).Nodup := keys ▸ distinct
    rw [if_pos included, hown, Option.bind_some, Table.ofPairs_of_nodup distinct,
      Table.get?_of_mem distinct hmem]
    rfl
  · rename_i excluded
    obtain rfl := Except.ok.inj h
    rw [if_neg excluded, Option.bind_none]

theorem exists_contractSchemas {transactions : List Transaction}
    (h : ∀ t ∈ transactions, ∃ schemas, ownSchemas context t = .ok schemas) :
    ∃ schemas, contractSchemas context.settings context.documents transactions = .ok schemas := by
  unfold contractSchemas
  unfold ownSchemas at h
  split
  · rename_i included
    have each (t : Transaction) (ht : t ∈ transactions) :
        ∃ schemas, handlerSchemas context.documents t = .ok schemas := by
      obtain ⟨_, own⟩ := h t ht
      rw [if_pos included] at own
      obtain ⟨schemas, hschemas, -⟩ := map_eq_ok_iff.mp own
      exact ⟨schemas, hschemas⟩
    obtain ⟨pairs, hpairs⟩ := exists_transactionSchemas each
    exact ⟨_, map_eq_ok_iff.mpr ⟨pairs, hpairs, rfl⟩⟩
  · exact ⟨none, rfl⟩

theorem compileTransactions_ok_iff {schemas : Option (Table HandlerSchemas)}
    {transactions : List Transaction} (own : ∀ t ∈ transactions, FindsOwn context schemas t)
    {flows : List Flow} {exports : List Export} :
    (compileTransactions context c schemas transactions).result = .ok (flows, exports) ↔
      ∃ shares, List.Forall₂ (fun t share => Share.ofTransaction context c t = .ok share)
        transactions shares ∧
        shares.map (·.flow) = flows ∧ shares.flatMap (·.exports) = exports := by
  induction transactions generalizing flows exports with
  | nil =>
    rw [compileTransactions]
    simp [eq_comm]
  | cons t rest ih =>
    obtain ⟨here, later⟩ := List.forall_mem_cons.mp own
    rw [compileTransactions]
    simp only [Traced.bind_result_ok_iff, Traced.result_onError]
    constructor
    · rintro ⟨⟨flow, exported⟩, hflow, ⟨more, moreExports⟩, hmore, h⟩
      obtain ⟨rfl, rfl⟩ := Prod.mk.inj (Except.ok.inj h)
      obtain ⟨shares, hshares, rfl, rfl⟩ := (ih later).mp hmore
      exact ⟨⟨_, flow, exported⟩ :: shares,
        .cons (Share.ofTransaction_ok_iff.mpr ⟨_, here, hflow, rfl⟩) hshares,
        rfl, rfl⟩
    · rintro ⟨_, h, rfl, rfl⟩
      obtain ⟨share, shares, hshare, hshares, rfl⟩ := List.forall₂_cons_left_iff.mp h
      obtain ⟨_, hown, hflow, -⟩ := Share.ofTransaction_ok_iff.mp hshare
      obtain rfl := Except.ok.inj (here.symm.trans hown)
      exact ⟨_, hflow, _, (ih later).mpr ⟨shares, hshares, rfl, rfl⟩, rfl⟩

theorem handlers_eq_of_shares {schemas : Option (Table HandlerSchemas)}
    {transactions : List Transaction}
    (own : ∀ t ∈ transactions, FindsOwn context schemas t) {shares : List Share}
    (h : List.Forall₂ (fun t share => Share.ofTransaction context c t = .ok share)
      transactions shares) :
    (transactions.map fun t =>
      Handler.ofTransaction context.settings t (schemas.bind (·.get? t.name))) =
      shares.map (·.handler) := by
  induction h with
  | nil => rfl
  | cons hshare _ ih =>
    obtain ⟨here, later⟩ := List.forall_mem_cons.mp own
    obtain ⟨_, hown, -, handler⟩ := Share.ofTransaction_ok_iff.mp hshare
    obtain rfl := Except.ok.inj (here.symm.trans hown)
    rw [List.map_cons, List.map_cons, handler, ih later]

def App.ofShares (spec : Spec) (name : String) (c : Contract) (registry : Registry)
    (settings : Settings) (shares : List Share) : App where
  name
  version := spec.info.version
  description := c.name
  appModel := settings.appModel
  imports := spec.imports
  trigger :=
    { id := settings.triggerId
      cid := if c.cid = "" then none else some c.cid
      handlers := shares.map (·.handler) }
  flows := shares.map (·.flow)
  schemas :=
    if settings.includeSchemas then
      some ((registry.expandAll.1.exporting (shares.flatMap (·.exports))).definitions.mapValues
        FlowSchema.ofSchema)
    else none

/-- An application comes out just when the registry expands and every transaction has its share, and
it is made of these. -/
theorem App.ofContract_ok_iff_shares {spec : Spec} {name : String} {registry : Registry}
    {activities : Activities} {settings : Settings} {transactions : List Transaction}
    (distinct : (transactions.map (·.name)).Nodup) {app : App} :
    (App.ofContract spec name { c with transactions } registry activities settings).result =
      .ok app ↔ (∃ replaced, registry.expandAll.2.result = .ok replaced) ∧
        ∃ shares, List.Forall₂ (fun t share =>
            Share.ofTransaction (registry.context activities settings) c t = .ok share)
              transactions shares ∧
          App.ofShares spec name c registry settings shares = app := by
  -- Whatever the transactions of a contract are, its shares and parts see only its name and its
  -- attributes.
  have findsOwn {schemas : Option (Table HandlerSchemas)}
      (h : contractSchemas settings registry.expandAll.1.documents transactions = .ok schemas) :
      ∀ t ∈ transactions, FindsOwn (registry.context activities settings) schemas t :=
    findsOwn_of_contractSchemas distinct h
  have parts {schemas : Option (Table HandlerSchemas)} {shares : List Share}
      (own : ∀ t ∈ transactions, FindsOwn (registry.context activities settings) schemas t)
      (h : List.Forall₂ (fun t share =>
        Share.ofTransaction (registry.context activities settings) c t = .ok share)
          transactions shares) :
      App.ofParts spec name { c with transactions } registry settings schemas (shares.map (·.flow))
        (shares.flatMap (·.exports)) = App.ofShares spec name c registry settings shares := by
    rw [App.ofShares, ← handlers_eq_of_shares own h]
    rfl
  rw [App.ofContract_ok_iff]
  constructor
  · rintro ⟨replaced, hexpand, schemas, hschemas, ⟨flows, exports⟩, hflows, rfl⟩
    obtain ⟨shares, hshares, rfl, rfl⟩ := (compileTransactions_ok_iff (findsOwn hschemas)).mp hflows
    exact ⟨⟨replaced, hexpand⟩, shares, hshares, (parts (findsOwn hschemas) hshares).symm⟩
  · rintro ⟨⟨replaced, hexpand⟩, shares, hshares, rfl⟩
    have known (t : Transaction) (ht : t ∈ transactions) :
        ∃ schemas, ownSchemas (registry.context activities settings) t = .ok schemas := by
      obtain ⟨share, -, hshare⟩ := exists_mem_of_forall₂ hshares ht
      obtain ⟨schemas, hschemas, -⟩ := Share.ofTransaction_ok_iff.mp hshare
      exact ⟨schemas, hschemas⟩
    obtain ⟨schemas, hschemas⟩ := exists_contractSchemas known
    exact ⟨replaced, hexpand, schemas, hschemas, _,
      (compileTransactions_ok_iff (findsOwn hschemas)).mpr ⟨shares, hshares, rfl, rfl⟩,
      parts (findsOwn hschemas) hshares⟩

/-! The names of the exported schemas. -/

theorem Schema.Registry.documents_exporting (r : Registry) (exports : List Export) :
    (r.exporting exports).documents = r.documents := by
  unfold Registry.exporting
  induction exports generalizing r with
  | nil => rfl
  | cons e exports ih => exact ih _

theorem Schema.Registry.mem_derived_exporting {r : Registry} {exports : List Export}
    {key : String} :
    key ∈ (r.exporting exports).derived.keys ↔ key ∈ r.derived.keys ∨
      ∃ e ∈ exports, e.key = key := by
  unfold Registry.exporting
  induction exports generalizing r with
  | nil => simp
  | cons e exports ih =>
    rw [List.foldl_cons, ih, Registry.derive, Table.mem_keys_insert]
    simp only [List.mem_cons, exists_eq_or_imp, Export.key]
    grind

theorem Schema.Registry.mem_definitions_exporting {r : Registry} {exports : List Export}
    {key : String} :
    key ∈ (r.exporting exports).definitions.keys ↔
      (key ∈ r.documents.keys.map refName ∨ key ∈ r.derived.keys) ∨ ∃ e ∈ exports, e.key = key := by
  rw [Registry.definitions, Table.mem_keys_ofPairs, Table.keys_append, List.mem_append,
    mem_derived_exporting, documents_exporting, or_assoc]
  simp [Table.keys]

def App.keeping (spec : Spec) (name : String) (c : Contract) (registry : Registry)
    (activities : Activities) (settings : Settings)
    (transactions : List Transaction) : Except Error App :=
  (App.ofContract spec name { c with transactions } registry activities settings).result

/-- An application whose handlers and flows are those of its transactions compiled alone, in order,
and which names the schemas that any of these names. -/
structure App.IsSum (app : App) (transactions : List Transaction)
    (alone : Transaction → Except Error App) : Prop where
  handlerCount : app.trigger.handlers.length = transactions.length
  flowCount : app.flows.length = transactions.length
  parts : ∀ (i : Nat) (t : Transaction), transactions[i]? = some t →
    ∃ single handler flow, alone t = .ok single ∧
    single.trigger.handlers = [handler] ∧ app.trigger.handlers[i]? = some handler ∧
    single.flows = [flow] ∧ app.flows[i]? = some flow
  schemas : ∀ table, app.schemas = some table → ∀ key, key ∈ table.keys ↔
    ∃ t ∈ transactions, ∃ single own, alone t = .ok single ∧ single.schemas = some own ∧
      key ∈ own.keys

section
variable {spec : Spec} {name : String} {registry : Registry} {activities : Activities}
    {settings : Settings}

theorem App.keeping_singleton_ok_iff {t : Transaction} {app : App} :
    App.keeping spec name c registry activities settings [t] = .ok app ↔
      (∃ replaced, registry.expandAll.2.result = .ok replaced) ∧ ∃ share,
        Share.ofTransaction (registry.context activities settings) c t = .ok share ∧
        App.ofShares spec name c registry settings [share] = app := by
  have distinct : ([t].map (·.name)).Nodup := List.nodup_singleton _
  rw [App.keeping, App.ofContract_ok_iff_shares distinct]
  simp [List.forall₂_cons_left_iff]

theorem App.mem_schemas_ofShares {shares : List Share} {table : Table FlowSchema}
    (h : (App.ofShares spec name c registry settings shares).schemas = some table) {key : String} :
    key ∈ table.keys ↔
      (key ∈ registry.expandAll.1.documents.keys.map refName ∨
        key ∈ registry.expandAll.1.derived.keys) ∨
        ∃ share ∈ shares, ∃ e ∈ share.exports, e.key = key := by
  simp only [App.ofShares, Option.ite_none_right_eq_some, Option.some.injEq] at h
  obtain ⟨-, rfl⟩ := h
  rw [Table.keys_mapValues, Registry.mem_definitions_exporting]
  refine or_congr_right ?_
  simp only [List.mem_flatMap]
  constructor
  · rintro ⟨e, ⟨share, hshare, he⟩, hkey⟩
    exact ⟨share, hshare, e, he, hkey⟩
  · rintro ⟨share, hshare, e, he, hkey⟩
    exact ⟨e, ⟨share, hshare, he⟩, hkey⟩

theorem App.isSum_ofShares {transactions : List Transaction} {shares : List Share}
    (filled : transactions ≠ []) (expanded : ∃ replaced, registry.expandAll.2.result = .ok replaced)
    (h : List.Forall₂ (fun t share =>
      Share.ofTransaction (registry.context activities settings) c t = .ok share)
        transactions shares) :
    (App.ofShares spec name c registry settings shares).IsSum transactions fun t =>
      App.keeping spec name c registry activities settings [t] := by
  have alone {i : Nat} {t : Transaction} (ht : transactions[i]? = some t) :
    ∃ share, shares[i]? = some share ∧
      Share.ofTransaction (registry.context activities settings) c t = .ok share ∧
      App.keeping spec name c registry activities settings [t] =
        .ok (App.ofShares spec name c registry settings [share]) := by
    obtain ⟨share, hi, hshare⟩ := getElem?_of_forall₂ h ht
    exact ⟨share, hi, hshare, App.keeping_singleton_ok_iff.mpr ⟨expanded, share, hshare, rfl⟩⟩
  refine ⟨?_, ?_, ?_, ?_⟩
  · rw [App.ofShares, List.length_map, h.length_eq]
  · rw [App.ofShares, List.length_map, h.length_eq]
  · intro i t ht
    obtain ⟨share, hi, -, hsingle⟩ := alone ht
    refine ⟨_, share.handler, share.flow, hsingle, rfl, ?_, rfl, ?_⟩
    · rw [App.ofShares, List.getElem?_map, hi, Option.map_some]
    · rw [App.ofShares, List.getElem?_map, hi, Option.map_some]
  · intro table htable key
    have own (share : Share) :
        ∃ table, (App.ofShares spec name c registry settings [share]).schemas = some table := by
      simp only [App.ofShares, Option.ite_none_right_eq_some, Option.some.injEq] at htable
      exact ⟨_, if_pos htable.1⟩
    rw [App.mem_schemas_ofShares htable]
    -- What the registry names is in every table, so any one transaction accounts for it.
    constructor
    · rintro (registered | ⟨share, hmem, e, he, hkey⟩)
      · obtain ⟨t, rest, rfl⟩ := List.exists_cons_of_ne_nil filled
        obtain ⟨share, -, -, hsingle⟩ := alone (i := 0) rfl
        obtain ⟨ownTable, hown⟩ := own share
        exact ⟨t, List.mem_cons_self, _, ownTable, hsingle, hown,
          (App.mem_schemas_ofShares hown).mpr (.inl registered)⟩
      · obtain ⟨i, hi⟩ := List.mem_iff_getElem?.mp hmem
        obtain ⟨t, ht, -⟩ := getElem?_of_forall₂ h.flip hi
        obtain ⟨_, hi', -, hsingle⟩ := alone ht
        obtain rfl := Option.some.inj (hi.symm.trans hi')
        obtain ⟨ownTable, hown⟩ := own share
        exact ⟨t, List.mem_of_getElem? ht, _, ownTable, hsingle, hown,
          (App.mem_schemas_ofShares hown).mpr
            (.inr ⟨share, List.mem_singleton_self _, e, he, hkey⟩)⟩
    · rintro ⟨t, hmem, single, ownTable, hsingle, hown, hkey⟩
      obtain ⟨i, ht⟩ := List.mem_iff_getElem?.mp hmem
      obtain ⟨share, hi, -, hsingle'⟩ := alone ht
      obtain rfl := Except.ok.inj (hsingle.symm.trans hsingle')
      refine ((App.mem_schemas_ofShares hown).mp hkey).imp_right ?_
      rintro ⟨_, hshare, e, he, hkey⟩
      obtain rfl := List.mem_singleton.mp hshare
      exact ⟨_, List.mem_of_getElem? hi, e, he, hkey⟩

theorem App.exists_keeping_iff {transactions : List Transaction}
    (distinct : (transactions.map (·.name)).Nodup) (filled : transactions ≠ []) :
    (∃ app, App.keeping spec name c registry activities settings transactions = .ok app) ↔
      ∀ t ∈ transactions, ∃ alone, App.keeping spec name c registry activities settings [t] =
        .ok alone := by
  constructor
  · rintro ⟨app, happ⟩ t ht
    obtain ⟨expanded, shares, hshares, -⟩ := (App.ofContract_ok_iff_shares distinct).mp happ
    obtain ⟨share, -, hshare⟩ := exists_mem_of_forall₂ hshares ht
    exact ⟨_, App.keeping_singleton_ok_iff.mpr ⟨expanded, share, hshare, rfl⟩⟩
  · intro each
    obtain ⟨first, hfirst⟩ := List.exists_mem_of_ne_nil _ filled
    obtain ⟨_, hsingle⟩ := each first hfirst
    obtain ⟨expanded, -⟩ := App.keeping_singleton_ok_iff.mp hsingle
    have known (t : Transaction) (ht : t ∈ transactions) :
        ∃ share, Share.ofTransaction (registry.context activities settings) c t = .ok share := by
      obtain ⟨_, hsingle⟩ := each t ht
      obtain ⟨-, share, hshare, -⟩ := App.keeping_singleton_ok_iff.mp hsingle
      exact ⟨share, hshare⟩
    obtain ⟨shares, hshares⟩ := exists_forall₂ known
    exact ⟨_, (App.ofContract_ok_iff_shares distinct).mpr ⟨expanded, shares, hshares, rfl⟩⟩

theorem App.exists_keeping_of_subperm {transactions kept : List Transaction}
    (distinct : (transactions.map (·.name)).Nodup) (sub : kept.Subperm transactions) {app : App}
    (happ : App.keeping spec name c registry activities settings transactions = .ok app) :
    ∃ other, App.keeping spec name c registry activities settings kept = .ok other ∧
      ∀ (i j : Nat) (t : Transaction), transactions[i]? = some t → kept[j]? = some t →
        other.trigger.handlers[j]? = app.trigger.handlers[i]? ∧
          other.flows[j]? = app.flows[i]? := by
  obtain ⟨expanded, shares, hshares, rfl⟩ := (App.ofContract_ok_iff_shares distinct).mp happ
  obtain ⟨sublist, perm, hsub⟩ := sub
  -- Fewer transactions still have different names, so each finds its own schemas here too.
  have keptDistinct : (kept.map (·.name)).Nodup :=
    (perm.map _).nodup_iff.mp (distinct.sublist (hsub.map _))
  have known (t : Transaction) (ht : t ∈ kept) :
      ∃ share, Share.ofTransaction (registry.context activities settings) c t = .ok share := by
    obtain ⟨share, -, hshare⟩ := exists_mem_of_forall₂ hshares (hsub.subset (perm.mem_iff.mpr ht))
    exact ⟨share, hshare⟩
  obtain ⟨keptShares, hkept⟩ := exists_forall₂ known
  refine ⟨_, (App.ofContract_ok_iff_shares keptDistinct).mpr ⟨expanded, keptShares, hkept, rfl⟩, ?_⟩
  intro i j t hi hj
  obtain ⟨share, hsi, hshare⟩ := getElem?_of_forall₂ hshares hi
  obtain ⟨keptShare, hsj, hkeptShare⟩ := getElem?_of_forall₂ hkept hj
  obtain rfl := Except.ok.inj (hshare.symm.trans hkeptShare)
  simp only [App.ofShares, List.getElem?_map, hsi, hsj, and_self]

end

/-- The application of a contract comes out just when that of each transaction alone does, and then
it is their sum; what a transaction adds stays the same when others are left out or come in another
order. -/
theorem App.keeping_independent {payload : Payload} {spec : Spec} {choice : Option String}
    {name : String} {c : Contract} (registry : Registry) (activities : Activities)
    (settings : Settings) (parsed : Spec.parse payload = .ok spec)
    (selected : spec.select choice = .ok (name, c)) (filled : c.transactions ≠ []) :
    ((∃ app, App.keeping spec name c registry activities settings c.transactions = .ok app) ↔
      ∀ t ∈ c.transactions, ∃ alone, App.keeping spec name c registry activities settings [t] =
        .ok alone) ∧
    ∀ app, App.keeping spec name c registry activities settings c.transactions = .ok app →
      (app.IsSum c.transactions fun t => App.keeping spec name c registry activities settings [t]) ∧
      app.schemas.isSome = settings.includeSchemas ∧
      ∀ kept : List Transaction, kept.Subperm c.transactions → ∃ other,
        App.keeping spec name c registry activities settings kept = .ok other ∧
        ∀ (i j : Nat) (t : Transaction), c.transactions[i]? = some t → kept[j]? = some t →
          other.trigger.handlers[j]? = app.trigger.handlers[i]? ∧
            other.flows[j]? = app.flows[i]? := by
  have distinct := Spec.distinct_of_parse parsed selected
  refine ⟨App.exists_keeping_iff distinct filled, fun app happ => ⟨?_, ?_, fun kept sub => ?_⟩⟩
  · obtain ⟨expanded, shares, hshares, rfl⟩ := (App.ofContract_ok_iff_shares distinct).mp happ
    exact App.isSum_ofShares filled expanded hshares
  · obtain ⟨-, shares, -, rfl⟩ := (App.ofContract_ok_iff_shares distinct).mp happ
    cases included : settings.includeSchemas <;> simp [App.ofShares, included]
  · exact App.exists_keeping_of_subperm distinct sub happ

theorem App.keeping_independent_warehouse : ∃ app other,
    App.keeping .warehouse "warehouse" .warehouse .warehouse .builtin {}
      [.listItems, .putItem] = .ok app ∧
      app.schemas.isSome = true ∧
      (app.IsSum [.listItems, .putItem] fun t =>
        App.keeping .warehouse "warehouse" .warehouse .warehouse .builtin {} [t]) ∧
      App.keeping .warehouse "warehouse" .warehouse .warehouse .builtin {} [.putItem] = .ok other ∧
      other.trigger.handlers[0]? = app.trigger.handlers[1]? ∧ other.flows[0]? = app.flows[1]? := by
  obtain ⟨app, happ, -⟩ := App.exists_ofContract_warehouse
  have selected : Spec.warehouse.select none = .ok ("warehouse", .warehouse) := rfl
  obtain ⟨-, sum⟩ := App.keeping_independent .warehouse .builtin {} Spec.parse_warehouse selected
    (List.cons_ne_nil _ _)
  obtain ⟨isSum, included, left⟩ := sum app happ
  obtain ⟨other, hother, same⟩ := left [.putItem] ⟨_, .refl _, List.sublist_cons_self _ _⟩
  exact ⟨app, other, happ, included, isSum, hother, same 1 0 .putItem rfl rfl⟩

end LedgerFlow
