import Doctmcp.Lib.Simulation
import Doctmcp.Device.Ownership
import Doctmcp.Device.Sqlite

/-! # The device repositories agree

The two adapters side by side, on a map and on a table with the same devices. Both check in the
same order, so they fail together and with the same code, and write the same device. The in-memory
adapter keeps the contract of ownership by itself, the SQLite one because it agrees. They may part
in the order of a listing, which the one takes from the locale of its host. -/

namespace Doctmcp.Device
open Doctmcp.Lib Doctmcp.Lib.Operation Doctmcp.Schemas Doctmcp.Storage
set_option autoImplicit false

/-- The database `db'` has the devices of `s'` and everything else of `db`. -/
def Keeps (db : Database) (s' : InMemoryDeviceRepository) (db' : Database) : Prop :=
  db' = { db with devices := s'.records }

/-- An operation of the in-memory adapter and one of the SQLite adapter have the same result and
leave the same devices; nothing else in the database changes. -/
abbrev Alike {α : Type} (db : Database) (out : Except JsError α × InMemoryDeviceRepository)
    (out' : Except JsError α × Database) : Prop :=
  SameOutcome (Keeps db) out out'

section Alike
variable {α : Type} {s : InMemoryDeviceRepository} {db : Database}

theorem unchanged (h : db.devices = s.records) : Keeps db s db := by
  unfold Keeps
  rw [← h]

/-- Both operations have written the same device. -/
theorem Alike.written (h : db.devices = s.records) (a : α) (d : DeviceId) (record : StoredDevice) :
    Alike db (.ok a, (⟨s.records.set d record⟩ : InMemoryDeviceRepository))
      (.ok a, { db with devices := db.devices.set d record }) := by
  refine ⟨rfl, ?_⟩
  unfold Keeps
  rw [h]

end Alike

/-! ## The operations -/

theorem orderListed_eq : SqliteDeviceRepository.orderListed = compareListed .binary := rfl

theorem exec_findForOwner_bind {β : Type} (owner : String) (d : DeviceId)
    (f : Option DeviceRow → Operation Database JsError β) (db : Database) :
    exec (SqliteDeviceRepository.findForOwner owner d >>= f) db =
      exec (f ((db.devices.get? d).filter (·.ownerId = owner))) db := by
  rw [exec_bind]
  rfl

theorem assignPatch_eq (patch : UpdateDeviceInput) (nowMs : ℤ) (record : StoredDevice) :
    SqliteDeviceRepository.assignPatch patch nowMs record = record.patched patch nowMs := by
  unfold SqliteDeviceRepository.assignPatch StoredDevice.patched
  cases patch.metadata <;> rfl

/-- An `UPDATE` that finds its row changes that row. -/
theorem exec_updateDevice {db : Database} {owner : String} {d : DeviceId} {nowMs : ℤ}
    {assign : DeviceRow → DeviceRow} {row : DeviceRow} (hrow : db.devices.get? d = some row)
    (howner : row.ownerId = owner) (hclock : row.updatedAtMs ≤ nowMs)
    (hcheck : ¬ (assign row).updatedAtMs < (assign row).createdAtMs) :
    exec (SqliteDeviceRepository.updateDevice owner d nowMs assign) db =
      (.ok 1, { db with devices := db.devices.set d (assign row) }) := by
  have hfound : (some row).filter
      (fun row => decide (row.ownerId = owner ∧ row.updatedAtMs ≤ nowMs)) = some row :=
    Option.filter_some_pos (decide_eq_true ⟨howner, hclock⟩)
  unfold SqliteDeviceRepository.updateDevice
  rw [exec_get_bind, hrow, hfound]
  dsimp only
  rw [exec_bind, exec_failIf, if_neg hcheck]
  rfl

/-- No device was updated before it was created: the `CHECK` of the table. -/
def Timely (s : InMemoryDeviceRepository) : Prop :=
  ∀ d record, s.records.get? d = some record → record.createdAtMs ≤ record.updatedAtMs

section Operations
variable {s : InMemoryDeviceRepository} {db : Database} (h : db.devices = s.records)
include h

theorem create_alike (source : DeviceSource) (input : CreateDeviceInput) :
    Alike db (exec (InMemoryDeviceRepository.create source input) s)
      (exec (SqliteDeviceRepository.createInTransaction source input) db) := by
  unfold InMemoryDeviceRepository.create SqliteDeviceRepository.createInTransaction
  refine SameOutcome.bind (unchanged h) _ fun parsed _ => ?_
  -- the generated id is refused with different messages
  unfold parseDeviceId
  cases deviceIdSchema source.generateDeviceId with
  | none => exact SameOutcome.errors (unchanged h) rfl
  | some d =>
    rw [orThrow_some, orThrow_some, exec_lift_bind_eq rfl, exec_lift_bind_eq rfl, exec_get_bind,
      SqliteDeviceRepository.exec_findById_bind]
    refine SameOutcome.failIf (unchanged h) (by rw [h]; exact Iff.rfl) _ fun hnew => ?_
    refine SameOutcome.bind (unchanged h) _ fun nowMs _ => ?_
    have hnone : db.devices.get? d = none := by
      rw [h]
      exact (OrderedMap.has_false_iff _ _).mp (Bool.eq_false_iff.mpr hnew)
    rw [exec_set_bind, exec_pure, exec_bind, SqliteDeviceRepository.insertDevice_new hnone rfl]
    dsimp only
    rw [exec_bind, exec_failIf, if_neg one_ne_zero]
    dsimp only
    rw [SqliteDeviceRepository.exec_findById_bind, OrderedMap.get?_set_self, orThrow_some,
      exec_lift_bind_eq rfl, exec_pure]
    exact Alike.written h _ d _

theorem getById_alike (deviceId : String) :
    Alike db (exec (InMemoryDeviceRepository.getById deviceId) s)
      (exec (SqliteDeviceRepository.getById deviceId) db) := by
  unfold InMemoryDeviceRepository.getById SqliteDeviceRepository.getById
  refine SameOutcome.bind (unchanged h) _ fun d _ => ?_
  rw [exec_get_bind, SqliteDeviceRepository.exec_findById_bind, exec_pure, exec_pure, h]
  exact SameOutcome.same (unchanged h) _

theorem getForOwner_alike (ownerId deviceId : String) :
    Alike db (exec (InMemoryDeviceRepository.getForOwner ownerId deviceId) s)
      (exec (SqliteDeviceRepository.getForOwner ownerId deviceId) db) := by
  unfold InMemoryDeviceRepository.getForOwner SqliteDeviceRepository.getForOwner
  refine SameOutcome.bind (unchanged h) _ fun owner _ => ?_
  refine SameOutcome.bind (unchanged h) _ fun d _ => ?_
  rw [exec_get_bind, SqliteDeviceRepository.exec_findById_bind, exec_pure, exec_pure, h]
  exact SameOutcome.same (unchanged h) _

theorem listByOwnerId_alike (ownerId : String) :
    Alike db (exec (InMemoryDeviceRepository.listByOwnerId .binary ownerId) s)
      (exec (SqliteDeviceRepository.listByOwnerId ownerId) db) := by
  unfold InMemoryDeviceRepository.listByOwnerId SqliteDeviceRepository.listByOwnerId
  refine SameOutcome.bind (unchanged h) _ fun owner _ => ?_
  rw [exec_get_bind, exec_get_bind, exec_pure, exec_pure, h, orderListed_eq]
  exact SameOutcome.same (unchanged h) _

theorem isOwnedBy_alike (ownerId deviceId : String) :
    Alike db (exec (InMemoryDeviceRepository.isOwnedBy ownerId deviceId) s)
      (exec (SqliteDeviceRepository.isOwnedBy ownerId deviceId) db) := by
  unfold InMemoryDeviceRepository.isOwnedBy SqliteDeviceRepository.isOwnedBy
  refine SameOutcome.bind (unchanged h) _ fun owner _ => ?_
  refine SameOutcome.bind (unchanged h) _ fun d _ => ?_
  rw [exec_get_bind, exec_findForOwner_bind, exec_pure, exec_pure, h]
  have hanswer : ∀ found : Option StoredDevice,
      (found.filter (·.ownerId = owner)).isSome = decide (found.map (·.ownerId) = some owner) := by
    intro found
    cases found with
    | none => rfl
    | some record => by_cases howner : record.ownerId = owner <;> simp [Option.filter, howner]
  rw [hanswer]
  exact SameOutcome.same (unchanged h) _

theorem updateForOwner_alike (hs : Timely s) (now : JsDate) (ownerId deviceId : String)
    (patch : UpdateDeviceInput) :
    Alike db (exec (InMemoryDeviceRepository.updateForOwner now ownerId deviceId patch) s)
      (exec (SqliteDeviceRepository.updateForOwner now ownerId deviceId patch) db) := by
  unfold InMemoryDeviceRepository.updateForOwner SqliteDeviceRepository.updateForOwner
  refine SameOutcome.bind (unchanged h) _ fun owner _ => ?_
  refine SameOutcome.bind (unchanged h) _ fun d _ => ?_
  refine SameOutcome.bind (unchanged h) _ fun parsed _ => ?_
  rw [exec_get_bind, exec_findForOwner_bind, h]
  cases hfound : (s.records.get? d).filter (·.ownerId = owner) with
  | none => exact SameOutcome.same (unchanged h) (.ok none)
  | some record =>
    obtain ⟨hrecord, howner⟩ := Option.filter_eq_some_iff.mp hfound
    have howner : record.ownerId = owner := of_decide_eq_true howner
    dsimp only
    refine SameOutcome.bind (unchanged h) _ fun nowMs _ => ?_
    refine SameOutcome.failIf (unchanged h) Iff.rfl _ fun hclock => ?_
    have hlater : record.updatedAtMs ≤ nowMs := Int.not_lt.mp hclock
    have hcheck : ¬ (record.patched parsed nowMs).updatedAtMs <
        (record.patched parsed nowMs).createdAtMs :=
      Int.not_lt.mpr ((hs d record hrecord).trans hlater)
    have hrow : db.devices.get? d = some record := by
      rw [h]
      exact hrecord
    have hpatched : (some (record.patched parsed nowMs)).filter (·.ownerId = owner) =
        some (record.patched parsed nowMs) := Option.filter_some_pos (decide_eq_true howner)
    rw [exec_set_bind, exec_pure, exec_bind, exec_updateDevice hrow howner hlater
      (by rw [assignPatch_eq]; exact hcheck), assignPatch_eq]
    dsimp only
    rw [if_neg one_ne_zero, exec_findForOwner_bind, OrderedMap.get?_set_self, hpatched,
      orThrow_some, exec_lift_bind_eq rfl, exec_pure]
    exact Alike.written h _ d _

end Operations

/-! ## The adapters -/

namespace InMemoryDeviceRepository

/-- On a host with this default locale. -/
def adapter (locale : Collation) : Adapter InMemoryDeviceRepository where
  create := create
  getById := getById
  getForOwner := getForOwner
  listByOwnerId := listByOwnerId locale
  updateForOwner := updateForOwner
  isOwnedBy := isOwnedBy
  collation := locale
  records s := s.records

section Contract
variable (locale : Collation)

theorem create_returns (s : InMemoryDeviceRepository) (source : DeviceSource)
    (input : CreateDeviceInput) : (adapter locale).CallOutcome s (.create source input)
      (Adapter.reply .created (exec (create source input) s)) := by
  have hcreate := create_outcome source input s
  generalize exec (create source input) s = out at hcreate ⊢
  cases hcreate with
  | thrown e => exact .refused _ e
  | created record hnew => exact .created source input record _ hnew rfl

/-- An operation that only reads is refused or answers. -/
theorem read_returns {α : Type} (s : InMemoryDeviceRepository) {c : Call} {f : α → Reply}
    {op : Operation InMemoryDeviceRepository JsError α} (hread : ReadOnly op)
    (hlisted : ∀ a, (exec op s).1 = .ok a → ∀ ownerId, c = .listByOwnerId ownerId →
      f a = .listed (listing (compareListed locale) s.records ownerId)) :
    (adapter locale).CallOutcome s c (Adapter.reply f (exec op s)) := by
  have hstore := hread s
  generalize exec op s = out at hstore hlisted ⊢
  obtain ⟨result, s'⟩ := out
  obtain rfl := hstore
  cases result with
  | error e => exact .refused _ e
  | ok a => exact .read _ _ (hlisted a rfl)

theorem readOnly_getById (deviceId : String) : ReadOnly (getById deviceId) :=
  ReadOnly.bind (ReadOnly.lift _) fun _ => ReadOnly.bind ReadOnly.get fun _ => ReadOnly.pure _

theorem readOnly_getForOwner (ownerId deviceId : String) : ReadOnly (getForOwner ownerId deviceId) :=
  ReadOnly.bind (ReadOnly.lift _) fun _ => ReadOnly.bind (ReadOnly.lift _) fun _ =>
    ReadOnly.bind ReadOnly.get fun _ => ReadOnly.pure _

theorem readOnly_listByOwnerId (ownerId : String) : ReadOnly (listByOwnerId locale ownerId) :=
  ReadOnly.bind (ReadOnly.lift _) fun _ => ReadOnly.bind ReadOnly.get fun _ => ReadOnly.pure _

theorem readOnly_isOwnedBy (ownerId deviceId : String) : ReadOnly (isOwnedBy ownerId deviceId) :=
  ReadOnly.bind (ReadOnly.lift _) fun _ => ReadOnly.bind (ReadOnly.lift _) fun _ =>
    ReadOnly.bind ReadOnly.get fun _ => ReadOnly.pure _

theorem parseOwnerId_ok {ownerId owner : String} (h : parseOwnerId ownerId = .ok owner) :
    owner = ownerId :=
  ownerIdSchema_some (orThrow_ok h)

theorem exec_listByOwnerId (s : InMemoryDeviceRepository) (ownerId : String) :
    exec (listByOwnerId locale ownerId) s =
      ((parseOwnerId ownerId).map (listing (compareListed locale) s.records), s) := by
  unfold listByOwnerId
  cases parseOwnerId ownerId with
  | error e => rfl
  | ok owner => rw [exec_lift_bind_eq rfl, exec_get_bind]; rfl

theorem updateForOwner_returns (s : InMemoryDeviceRepository) (now : JsDate)
    (ownerId deviceId : String) (patch : UpdateDeviceInput) :
    (adapter locale).CallOutcome s (.updateForOwner now ownerId deviceId patch)
      (Adapter.reply .updated (exec (updateForOwner now ownerId deviceId patch) s)) := by
  unfold updateForOwner
  refine exec_bind_cases (P := fun out => (adapter locale).CallOutcome s _ (Adapter.reply .updated out))
    (fun e _ => .refused _ e) fun owner howner => ?_
  obtain rfl := parseOwnerId_ok howner
  refine exec_bind_cases (P := fun out => (adapter locale).CallOutcome s _ (Adapter.reply .updated out))
    (fun e _ => .refused _ e) fun d hd => ?_
  refine exec_bind_cases (P := fun out => (adapter locale).CallOutcome s _ (Adapter.reply .updated out))
    (fun e _ => .refused _ e) fun parsed _ => ?_
  rw [exec_get_bind]
  cases hfound : (s.records.get? d).filter (·.ownerId = owner) with
  | none => exact .read _ _ fun _ hc => (nomatch hc)
  | some record =>
    obtain ⟨hrecord, howner⟩ := Option.filter_eq_some_iff.mp hfound
    dsimp only
    refine exec_bind_cases (P := fun out => (adapter locale).CallOutcome s _ (Adapter.reply .updated out))
      (fun e _ => .refused _ e) fun nowMs _ => ?_
    refine exec_failIf_cases (P := fun out => (adapter locale).CallOutcome s _ (Adapter.reply .updated out))
      (fun _ => .refused _ _) fun hclock => ?_
    exact .updated now owner deviceId patch parsed d record nowMs _ (orThrow_ok hd) hrecord
      (of_decide_eq_true howner) (Int.not_lt.mp hclock) rfl

theorem contract : (adapter locale).Contract where
  outcome s c := by
    cases c with
    | create source input => exact create_returns locale s source input
    | getById deviceId =>
      exact read_returns locale s (readOnly_getById deviceId) fun _ _ _ hc => (nomatch hc)
    | getForOwner ownerId deviceId =>
      exact read_returns locale s (readOnly_getForOwner ownerId deviceId) fun _ _ _ hc => (nomatch hc)
    | listByOwnerId ownerId =>
      refine read_returns locale s (readOnly_listByOwnerId locale ownerId) fun devices hok owner hc => ?_
      obtain rfl := Call.listByOwnerId.inj hc
      have hlist : exec ((adapter locale).listByOwnerId ownerId) s = _ :=
        exec_listByOwnerId locale s ownerId
      rw [hlist] at hok
      cases howner : parseOwnerId ownerId with
      | error e => rw [howner] at hok; cases hok
      | ok owner =>
        obtain rfl := parseOwnerId_ok howner
        rw [howner] at hok
        rw [← Except.ok.inj hok]
    | updateForOwner now ownerId deviceId patch =>
      exact updateForOwner_returns locale s now ownerId deviceId patch
    | isOwnedBy ownerId deviceId =>
      exact read_returns locale s (readOnly_isOwnedBy ownerId deviceId) fun _ _ _ hc => (nomatch hc)
  answers s ownerId howner := by
    obtain ⟨owner, howner⟩ := Option.ne_none_iff_exists'.mp howner
    refine ⟨.listed (listing (compareListed locale) s.records owner), ?_⟩
    have hparse : parseOwnerId ownerId = .ok owner := by rw [parseOwnerId, howner, orThrow_some]
    have hlist := exec_listByOwnerId locale s ownerId
    rw [hparse] at hlist
    change (exec (listByOwnerId locale ownerId) s).1.map Reply.listed = _
    rw [hlist]
    rfl

end Contract

theorem create_timely {s : InMemoryDeviceRepository} (hs : Timely s) (source : DeviceSource)
    (input : CreateDeviceInput) : Timely (exec (create source input) s).2 := by
  unfold create
  refine exec_bind_cases (P := fun out => Timely out.2) (fun e _ => hs) fun parsed _ => ?_
  refine exec_bind_cases (P := fun out => Timely out.2) (fun e _ => hs) fun id _ => ?_
  rw [exec_get_bind]
  refine exec_failIf_cases (P := fun out => Timely out.2) (fun _ => hs) fun _ => ?_
  refine exec_bind_cases (P := fun out => Timely out.2) (fun e _ => hs) fun nowMs _ => ?_
  rw [exec_set_bind, exec_pure]
  intro d record hrecord
  rw [OrderedMap.get?_set] at hrecord
  split_ifs at hrecord with hd
  · obtain rfl := Option.some.inj hrecord
    exact le_refl _
  · exact hs d record hrecord

theorem timely_call {s : InMemoryDeviceRepository} (hs : Timely s) (c : Call) :
    Timely ((adapter .binary).call s c).2 := by
  cases c with
  | create source input => exact create_timely hs source input
  | updateForOwner now ownerId deviceId patch =>
    have houtcome := (contract .binary).outcome s (.updateForOwner now ownerId deviceId patch)
    generalize (adapter .binary).call s (.updateForOwner now ownerId deviceId patch) = out
      at houtcome ⊢
    cases houtcome with
    | refused c e => exact hs
    | read c reply hlisted => exact hs
    | updated now ownerId deviceId patch parsed d old t s' hdevice hold howner hclock hrecords =>
      intro d' record hrecord
      have hrecords : s'.records = s.records.set d (old.patched parsed t) := hrecords
      rw [hrecords, OrderedMap.get?_set] at hrecord
      split_ifs at hrecord with hd
      · obtain rfl := Option.some.inj hrecord
        exact (hs d old hold).trans hclock
      · exact hs d' record hrecord
  | getById deviceId => exact (readOnly_getById deviceId s).symm ▸ hs
  | getForOwner ownerId deviceId => exact (readOnly_getForOwner ownerId deviceId s).symm ▸ hs
  | listByOwnerId ownerId => exact (readOnly_listByOwnerId .binary ownerId s).symm ▸ hs
  | isOwnedBy ownerId deviceId => exact (readOnly_isOwnedBy ownerId deviceId s).symm ▸ hs

end InMemoryDeviceRepository

def SqliteDeviceRepository.adapter : Adapter Database where
  create := SqliteDeviceRepository.createInTransaction
  getById := SqliteDeviceRepository.getById
  getForOwner := SqliteDeviceRepository.getForOwner
  listByOwnerId := SqliteDeviceRepository.listByOwnerId
  updateForOwner := SqliteDeviceRepository.updateForOwner
  isOwnedBy := SqliteDeviceRepository.isOwnedBy
  collation := .binary
  records db := db.devices

/-! ## Every history -/

/-- The two repositories hold the same devices, under their ids. -/
structure Agree (s : InMemoryDeviceRepository) (db : Database) : Prop where
  rows : db.devices = s.records
  timely : Timely s
  keyed : ∀ d record, s.records.get? d = some record → record.deviceId = d

theorem Alike.reply {α : Type} {db : Database} {f : α → Reply} (hf : ∀ a b, f a = f b → a = b)
    {out : Except JsError α × InMemoryDeviceRepository} {out' : Except JsError α × Database}
    (h : Alike db out out') : Alike db (Adapter.reply f out) (Adapter.reply f out') :=
  ⟨(sameResult_map_iff hf _ _).mpr h.1, h.2⟩

/-- One call on repositories that agree, where the locale compares ids as texts. -/
theorem call_alike {s : InMemoryDeviceRepository} {db : Database} (h : Agree s db) (c : Call) :
    Alike db ((InMemoryDeviceRepository.adapter .binary).call s c)
      (SqliteDeviceRepository.adapter.call db c) := by
  cases c with
  | create source input =>
    exact (create_alike h.rows source input).reply fun _ _ => Reply.created.inj
  | getById deviceId => exact (getById_alike h.rows deviceId).reply fun _ _ => Reply.found.inj
  | getForOwner ownerId deviceId =>
    exact (getForOwner_alike h.rows ownerId deviceId).reply fun _ _ => Reply.found.inj
  | listByOwnerId ownerId =>
    exact (listByOwnerId_alike h.rows ownerId).reply fun _ _ => Reply.listed.inj
  | updateForOwner now ownerId deviceId patch =>
    exact (updateForOwner_alike h.rows h.timely now ownerId deviceId patch).reply
      fun _ _ => Reply.updated.inj
  | isOwnedBy ownerId deviceId =>
    exact (isOwnedBy_alike h.rows ownerId deviceId).reply fun _ _ => Reply.owned.inj

theorem Agree.call {s : InMemoryDeviceRepository} {db : Database} (h : Agree s db) (c : Call) :
    Agree ((InMemoryDeviceRepository.adapter .binary).call s c).2
      (SqliteDeviceRepository.adapter.call db c).2 where
  rows := by rw [(call_alike h c).2]
  timely := InMemoryDeviceRepository.timely_call h.timely c
  keyed := ((InMemoryDeviceRepository.contract .binary).outcome s c).keyed h.keyed

/-- A call that leaves the in-memory devices as they were leaves the database as it was. -/
theorem call_unchanged {s : InMemoryDeviceRepository} {db : Database} (h : Agree s db) {c : Call}
    (hsame : ((InMemoryDeviceRepository.adapter .binary).call s c).2 = s) :
    (SqliteDeviceRepository.adapter.call db c).2 = db := by
  rw [(call_alike h c).2, hsame, ← h.rows]

theorem Agree.after {s : InMemoryDeviceRepository} {db : Database} (h : Agree s db)
    (calls : List Call) : Agree ((InMemoryDeviceRepository.adapter .binary).after s calls)
      (SqliteDeviceRepository.adapter.after db calls) := by
  induction calls generalizing s db with
  | nil => exact h
  | cons c calls ih => exact ih (h.call c)

/-- What holds of the in-memory repository over every history holds of the SQLite one. -/
theorem Agree.ownershipLaws {s : InMemoryDeviceRepository} {db : Database} (h : Agree s db)
    (hlaws : (InMemoryDeviceRepository.adapter .binary).OwnershipLaws s) :
    SqliteDeviceRepository.adapter.OwnershipLaws db where
  identity calls more d record hrecord := by
    have hstored := (h.after calls).rows
    have hstored' := (h.after (calls ++ more)).rows
    change (SqliteDeviceRepository.adapter.after db calls).devices.get? d = some record at hrecord
    change ∃ record', (SqliteDeviceRepository.adapter.after db (calls ++ more)).devices.get? d =
      some record' ∧ _
    rw [hstored] at hrecord
    rw [hstored']
    exact hlaws.identity calls more d record hrecord
  listing calls ownerId howner := by
    obtain ⟨devices, hanswer, hlists⟩ := hlaws.listing calls ownerId howner
    have halike := call_alike (h.after calls) (.listByOwnerId ownerId)
    refine ⟨devices, halike.1.ok hanswer, ?_⟩
    have hstored := (h.after calls).rows
    change Lists .binary (SqliteDeviceRepository.adapter.after db calls).devices ownerId devices
    rw [hstored]
    exact hlists
  failed calls c e he := by
    have hagree := h.after calls
    obtain ⟨e', he'⟩ := (call_alike hagree c).1.error he
    exact call_unchanged hagree (hlaws.failed calls c e' he')
  foreign calls c ownerId deviceId d record hnames hdevice hrecord hforeign := by
    have hagree := h.after calls
    refine call_unchanged hagree
      (hlaws.foreign calls c ownerId deviceId d record hnames hdevice ?_ hforeign)
    have hstored := hagree.rows
    change (SqliteDeviceRepository.adapter.after db calls).devices.get? d = some record at hrecord
    rw [hstored] at hrecord
    exact hrecord

/-! ## The locale of the host -/

section Locale
variable (locale : Collation)

/-- The two repositories side by side. -/
abbrev callBoth (st : InMemoryDeviceRepository × Database) (c : Call) :
    InMemoryDeviceRepository × Database :=
  both (InMemoryDeviceRepository.adapter locale).call SqliteDeviceRepository.adapter.call st c

/-- Both repositories return the same value, or fail with the same code; and a listing is by
`createdAt`, then by the text of `deviceId`. -/
structure Answers (st : InMemoryDeviceRepository × Database) (c : Call) : Prop where
  same : SameResult ((InMemoryDeviceRepository.adapter locale).call st.1 c).1
    (SqliteDeviceRepository.adapter.call st.2 c).1
  listed : ∀ ownerId devices, c = .listByOwnerId ownerId →
    ((InMemoryDeviceRepository.adapter locale).call st.1 c).1 = .ok (.listed devices) →
      Lists .binary st.1.records ownerId devices

/-- A call that lists the devices of an owner finds them ordered alike by the locale and by the
texts of their ids. -/
def Collates (st : InMemoryDeviceRepository × Database) (c : Call) : Prop :=
  ∀ ownerId, c = .listByOwnerId ownerId → ownerIdSchema ownerId ≠ none →
    CollatesAsText locale st.1.records ownerId

theorem listByOwnerId_refused (s : InMemoryDeviceRepository) {ownerId : String}
    (h : ownerIdSchema ownerId = none) :
    ((InMemoryDeviceRepository.adapter locale).call s (.listByOwnerId ownerId)).1 =
      .error (invalidInput "ownerId không hợp lệ.") := by
  change (exec (InMemoryDeviceRepository.listByOwnerId locale ownerId) s).1.map Reply.listed = _
  rw [InMemoryDeviceRepository.exec_listByOwnerId, parseOwnerId, h]
  rfl

/-- The locale decides nothing but the order of a listing. -/
theorem call_locale (s : InMemoryDeviceRepository) (c : Call) :
    ((InMemoryDeviceRepository.adapter locale).call s c).2 =
        ((InMemoryDeviceRepository.adapter .binary).call s c).2 ∧
      ((∀ ownerId, c = .listByOwnerId ownerId → ownerIdSchema ownerId = none) →
        ((InMemoryDeviceRepository.adapter locale).call s c).1 =
          ((InMemoryDeviceRepository.adapter .binary).call s c).1) := by
  cases c with
  | listByOwnerId ownerId =>
    constructor
    · have hstore := InMemoryDeviceRepository.readOnly_listByOwnerId locale ownerId s
      exact hstore.trans (InMemoryDeviceRepository.readOnly_listByOwnerId .binary ownerId s).symm
    · intro hinvalid
      rw [listByOwnerId_refused locale s (hinvalid ownerId rfl),
        listByOwnerId_refused .binary s (hinvalid ownerId rfl)]
  | create | getById | getForOwner | updateForOwner | isOwnedBy =>
    -- unfolded first, or the two adapters are compared as a whole
    unfold Adapter.call
    exact ⟨rfl, fun _ => rfl⟩

variable {locale} {s : InMemoryDeviceRepository} {db : Database}

theorem Agree.callBoth {st : InMemoryDeviceRepository × Database} (h : Agree st.1 st.2) (c : Call) :
    Agree (callBoth locale st c).1 (callBoth locale st c).2 := by
  change Agree ((InMemoryDeviceRepository.adapter locale).call st.1 c).2 _
  rw [(call_locale locale st.1 c).1]
  exact h.call c

variable (locale) in
/-- What the two repositories answer to a listing of a valid owner. -/
theorem listings (h : Agree s db) {ownerId : String} (howner : ownerIdSchema ownerId ≠ none) :
    ∃ devices devices',
      ((InMemoryDeviceRepository.adapter locale).call s (.listByOwnerId ownerId)).1 =
        .ok (.listed devices) ∧
      (SqliteDeviceRepository.adapter.call db (.listByOwnerId ownerId)).1 =
        .ok (.listed devices') ∧
      Lists locale s.records ownerId devices ∧ Lists .binary s.records ownerId devices' := by
  have hmemory := ((InMemoryDeviceRepository.contract locale).ownershipLaws h.keyed).listing []
    ownerId howner
  have hsqlite := (h.ownershipLaws ((InMemoryDeviceRepository.contract .binary).ownershipLaws
    h.keyed)).listing [] ownerId howner
  obtain ⟨devices, hanswer, hlists⟩ := hmemory
  obtain ⟨devices', hanswer', hlists'⟩ := hsqlite
  change Lists .binary db.devices ownerId devices' at hlists'
  rw [h.rows] at hlists'
  exact ⟨devices, devices', hanswer, hanswer', hlists, hlists'⟩

/-- One call: the answers are the same exactly where the locale collates as texts. -/
theorem answers_iff {st : InMemoryDeviceRepository × Database} (h : Agree st.1 st.2) (c : Call) :
    Answers locale st c ↔ Collates locale st c := by
  by_cases hread : ∃ ownerId, c = .listByOwnerId ownerId ∧ ownerIdSchema ownerId ≠ none
  · obtain ⟨ownerId, rfl, howner⟩ := hread
    obtain ⟨devices, devices', hanswer, hanswer', hlists, hlists'⟩ :=
      listings locale h howner
    constructor
    · rintro ⟨-, hlisted⟩ owner hc -
      obtain rfl := Call.listByOwnerId.inj hc
      exact hlists.binary_iff.mp (hlisted _ devices rfl hanswer)
    · intro hcollates
      have htext := hlists.binary_iff.mpr (hcollates ownerId rfl howner)
      obtain rfl := htext.unique hlists' fun _ _ _ => Iff.rfl
      refine ⟨by rw [hanswer, hanswer']; exact SameResult.refl _, fun owner listed hc hok => ?_⟩
      obtain rfl := Call.listByOwnerId.inj hc
      obtain rfl := Reply.listed.inj (Except.ok.inj (hanswer.symm.trans hok))
      exact htext
  · have hread : ∀ ownerId, c = .listByOwnerId ownerId → ownerIdSchema ownerId = none :=
      fun ownerId hc => not_not.mp fun howner => hread ⟨ownerId, hc, howner⟩
    have hsame := (call_alike h c).1
    rw [← (call_locale locale st.1 c).2 hread] at hsame
    refine iff_of_true ⟨hsame, ?_⟩ fun ownerId hc howner => absurd (hread ownerId hc) howner
    rintro ownerId devices rfl hok
    rw [listByOwnerId_refused locale st.1 (hread ownerId rfl)] at hok
    cases hok

end Locale

/-- A database without devices. -/
def withoutDevices (db : Database) : Database := { db with devices := OrderedMap.empty }

theorem agree_new (db : Database) : Agree InMemoryDeviceRepository.new (withoutDevices db) where
  rows := rfl
  timely _ _ hrecord := nomatch hrecord
  keyed _ _ hrecord := nomatch hrecord

/-- Both repositories are empty. -/
abbrev emptyBoth (db : Database) : InMemoryDeviceRepository × Database :=
  (InMemoryDeviceRepository.new, withoutDevices db)

theorem along_answers_iff (locale : Collation) (db : Database) (calls : List Call) :
    Along (callBoth locale) (Answers locale) (emptyBoth db) calls ↔
      Along (callBoth locale) (Collates locale) (emptyBoth db) calls := by
  have hstep : ∀ (st : InMemoryDeviceRepository × Database) c, Agree st.1 st.2 → True →
      Agree (callBoth locale st c).1 (callBoth locale st c).2 := fun _ c h _ => h.callBoth c
  have hiff : ∀ (st : InMemoryDeviceRepository × Database) c, Agree st.1 st.2 → True →
      (Answers locale st c ↔ Collates locale st c) := fun _ c h _ => answers_iff h c
  exact Along.congr_invariant hstep hiff (agree_new db) (along_true _ calls)

/-- Over every history of calls from empty repositories, both answer alike at every call and list by
`createdAt` and then by the text of `deviceId`, exactly if the locale orders the devices of every
listing by the texts of their ids. Both obey the laws of ownership, whatever the locale; each lists
in its own order. -/
theorem devices_agree (locale : Collation) (db : Database) :
    (∀ calls, Along (callBoth locale) (Answers locale) (emptyBoth db) calls ↔
        Along (callBoth locale) (Collates locale) (emptyBoth db) calls) ∧
      (InMemoryDeviceRepository.adapter locale).OwnershipLaws InMemoryDeviceRepository.new ∧
      SqliteDeviceRepository.adapter.OwnershipLaws (withoutDevices db) :=
  ⟨along_answers_iff locale db,
    (InMemoryDeviceRepository.contract locale).ownershipLaws (agree_new db).keyed,
    (agree_new db).ownershipLaws
      ((InMemoryDeviceRepository.contract .binary).ownershipLaws (agree_new db).keyed)⟩

/-- On a host with Danish as its default locale, two devices of an owner that were created in one
millisecond are listed in two orders. -/
theorem devices_agree_danish :
    let laptop : Call := .create ⟨"aaaaaaaa-0000-4000-8000-000000000000", some 0⟩
      ⟨"owner", "laptop", ⟨"linux", none, none⟩⟩
    let desktop : Call := .create ⟨"b0000000-0000-4000-8000-000000000000", some 0⟩
      ⟨"owner", "desktop", ⟨"linux", none, none⟩⟩
    ¬ Along (callBoth .danish) (Answers .danish) (emptyBoth .migrated)
      [laptop, desktop, .listByOwnerId "owner"] := by
  intro laptop desktop hrun
  obtain ⟨-, -, hlist, -⟩ := (along_answers_iff .danish .migrated _).mp hrun
  let left : StoredDevice := ⟨⟨"aaaaaaaa-0000-4000-8000-000000000000", by decide, by decide⟩, "owner",
    "laptop", ⟨"linux", none, none⟩, 0, 0⟩
  let right : StoredDevice := ⟨⟨"b0000000-0000-4000-8000-000000000000", by decide, by decide⟩, "owner",
    "desktop", ⟨"linux", none, none⟩, 0, 0⟩
  have hsame := hlist "owner" rfl (by decide) left.deviceId left right.deviceId right (by decide)
    (by decide) rfl rfl rfl
  have hdiffer : Collation.danish.localeCompare left.deviceId right.deviceId ≠
      Collation.binary.localeCompare left.deviceId right.deviceId := by decide
  exact hdiffer hsame

/-- Under the root collation both answer alike at every call of every history. -/
theorem answers_root (db : Database) (calls : List Call) :
    Along (callBoth .root) (Answers .root) (emptyBoth db) calls := by
  have hcollates : ∀ (st : InMemoryDeviceRepository × Database) c, True → True →
      Collates .root st c := fun _ _ _ _ _ _ _ _ left _ right _ _ _ _ _ =>
    Collation.root_eq_binary left.deviceId right.deviceId
  have hrun : Along (callBoth .root) (Collates .root) (emptyBoth db) calls :=
    Along.of_invariant (fun _ _ _ _ => trivial) hcollates trivial (along_true _ calls)
  exact (along_answers_iff .root db calls).mpr hrun

end Doctmcp.Device
