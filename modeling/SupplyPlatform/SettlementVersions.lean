import SupplyPlatform.Lib.Versions
import SupplyPlatform.SettlementLedger

namespace SupplyPlatform.Settlements

open Relational

/-- Where a client of the settlement store stands. `Cancel` is a client of its own: it reads, checks,
writes and reads again. -/
inductive Client
  | idle
  | holds (read : Settlement)
  | cancels (read failed : Settlement)
  | rereads (supplierID id : Int)
  | done (result : Except RepoError Settlement)

/-- An `Update` that went through: the settlement it was computed from, and the row before and after. -/
structure Write where
  read : Settlement
  before : SettlementRow
  after : SettlementRow

structure Clients where
  table : SettlementTable
  client : Nat → Client
  now : Time
  log : List Write

inductive Clients.Action
  | tick (elapsed : Nat)
  | getByID (n : Nat) (supplierID id : Int)
  | update (n : Nat) (edited : Settlement)
  | cancel (n : Nat) (supplierID id : Int)
  | cancelUpdate (n : Nat)
  | reread (n : Nat)
  | fail (n : Nat) (err : RepoError)

def Clients.setClient (c : Clients) (n : Nat) (x : Client) : Clients :=
  { c with client := Function.update c.client n x }

/-- The entry an `Update` leaves in the log when it finds its row. -/
def written (t : SettlementTable) (read edited : Settlement) (now : Time) : List Write :=
  match t.rows.find? (updates edited read.version) with
  | some r => [⟨read, r, updatedRow edited read.version now r⟩]
  | none => []

/-- Where a client goes after an `Update`. -/
def updated (next : Client) : Except RepoError Unit → Client
  | .ok () => next
  | .error e => .done (.error e)

/-- `Update(edited, read.version)`; `next` is where the client goes when it succeeds. -/
def Clients.write (c : Clients) (n : Nat) (read edited : Settlement) (next : Client) : Clients :=
  { table := (Settlements.update c.table edited read.version c.now).1,
    client := Function.update c.client n
      (updated next (Settlements.update c.table edited read.version c.now).2),
    now := c.now,
    log := written c.table read edited c.now ++ c.log }

/-- One statement of one client. A client writes back the settlement it has read, edited as it likes
but under the same id and supplier; a statement that fails in the database has no effect. -/
def Clients.step (c : Clients) : Clients.Action → Option Clients
  | .tick elapsed => some { c with now := c.now + elapsed }
  | .getByID n supplierID id =>
    match c.client n with
    | .idle | .done _ =>
      match Settlements.getByID c.table supplierID id with
      | .error e => some (c.setClient n (.done (.error e)))
      | .ok read => some (c.setClient n (.holds read))
    | _ => none
  | .update n edited =>
    match c.client n with
    | .holds read =>
      if edited.id = read.id ∧ edited.supplierID = read.supplierID then
        some (c.write n read edited
          (.done (.ok { edited with version := read.version + 1, updatedAt := c.now })))
      else none
    | _ => none
  | .cancel n supplierID id =>
    match c.client n with
    | .idle | .done _ =>
      match Settlements.getByID c.table supplierID id with
      | .error e => some (c.setClient n (.done (.error e)))
      | .ok read =>
        match cancelled read c.now with
        | .error e => some (c.setClient n (.done (.error e)))
        | .ok failed => some (c.setClient n (.cancels read failed))
    | _ => none
  | .cancelUpdate n =>
    match c.client n with
    | .cancels read failed =>
      some (c.write n read failed (.rereads read.supplierID read.id))
    | _ => none
  | .reread n =>
    match c.client n with
    | .rereads supplierID id =>
      some (c.setClient n (.done (Settlements.getByID c.table supplierID id)))
    | _ => none
  | .fail n err => some (c.setClient n (.done (.error err)))

def Clients.start (t : SettlementTable) (now : Time) : Clients :=
  { table := t, client := fun _ => .idle, now := now, log := [] }

/-- The values a settlement's row has had since the table was `t`, newest first. -/
def pastRows (t : SettlementTable) (id : Int) (log : List Write) : List SettlementRow :=
  (log.filter (fun w => w.after.id = id)).map (·.after) ++
    (t.rows.find? (fun r => r.id = id)).toList

/-- The settlement a client has read and may still write back. -/
def Client.read : Client → Option Settlement
  | .holds read => some read
  | .cancels read _ => some read
  | _ => none

structure Versioned (t : SettlementTable) (c : Clients) : Prop where
  fresh : ∀ later w earlier, c.log = later ++ w :: earlier →
    w.read = decodeSettlement w.before ∧ (pastRows t w.after.id earlier).head? = some w.before
  current : ∀ r ∈ c.table.rows, (pastRows t r.id c.log).head? = some r
  origin : ∀ r ∈ c.table.rows, ∃ first ∈ t.rows, first.id = r.id
  history : ∀ id, Optimistic.History SettlementRow.version (pastRows t id c.log)
  reads : ∀ n read, (c.client n).read = some read →
    ∃ r ∈ pastRows t read.id c.log, read = decodeSettlement r
  cancels : ∀ n read failed, c.client n = .cancels read failed →
    ∃ now, cancelled read now = .ok failed

theorem pastRows_cons (t : SettlementTable) (id : Int) (w : Write) (log : List Write) :
    pastRows t id (w :: log) =
      if w.after.id = id then w.after :: pastRows t id log else pastRows t id log := by
  unfold pastRows
  rw [List.filter_cons]
  split
  next h => simp_all
  next h => simp_all

theorem find_id_eq {t : SettlementTable} {r : SettlementRow} (hr : r ∈ t.rows) :
    t.rows.find? (fun q => q.id = r.id) = some r :=
  find?_eq_of_unique hr (by simp) (fun _ hq hid => row_eq_of_id hq hr (by simpa using hid))

theorem updates_iff {s : Settlement} {v : Int} {r : SettlementRow} :
    updates s v r ↔ r.id = s.id ∧ r.userID = s.supplierID ∧ r.version = v := by
  simp [updates, and_assoc]

/-- An `Update` that finds no row leaves the table as it was and reports a conflict. -/
theorem update_missing {t : SettlementTable} {s : Settlement} {v : Int} (now : Time)
    (h : t.rows.find? (updates s v) = none) :
    (update t s v now).1.rows = t.rows ∧ (update t s v now).2 = .error errConcurrencyConflict := by
  have hnone := List.find?_eq_none.mp h
  constructor
  · rw [rows_update]
    calc t.rows.map (fun r => if updates s v r then updatedRow s v now r else r)
        = t.rows.map id := List.map_congr_left (fun r hr => if_neg (hnone r hr))
      _ = t.rows := List.map_id _
  · have hany : t.rows.any (updates s v) = false := by simpa using hnone
    simp [update, hany]

/-- An `Update` that finds its row writes that row only. -/
theorem update_found {t : SettlementTable} {s : Settlement} {v : Int} {r : SettlementRow} (now : Time)
    (h : t.rows.find? (updates s v) = some r) :
    r ∈ t.rows ∧ updates s v r ∧ (update t s v now).2 = .ok () ∧
      ∀ q ∈ (update t s v now).1.rows, q = updatedRow s v now r ∨ q ∈ t.rows ∧ q.id ≠ r.id := by
  have hr := List.mem_of_find?_eq_some h
  have hu : updates s v r := List.find?_some h
  have hany : t.rows.any (updates s v) = true := List.any_eq_true.mpr ⟨r, hr, hu⟩
  refine ⟨hr, hu, by simp [update, hany], fun q hq => ?_⟩
  rw [rows_update] at hq
  obtain ⟨p, hp, rfl⟩ := List.mem_map.mp hq
  by_cases hup : updates s v p
  · have hpr : p = r := row_eq_of_id hp hr ((updates_iff.mp hup).1.trans (updates_iff.mp hu).1.symm)
    rw [if_pos hup, hpr]
    exact .inl rfl
  · rw [if_neg hup]
    refine .inr ⟨hp, fun hid => hup ?_⟩
    rwa [row_eq_of_id hp hr hid]

/-- Steps that write nothing: only what the clients have read is to be looked at. -/
theorem Versioned.move {t : SettlementTable} {c : Clients} (h : Versioned t c) {n : Nat} {x : Client}
    (hread : ∀ read, x.read = some read → ∃ r ∈ c.table.rows, read = decodeSettlement r)
    (hcancel : ∀ read failed, x = .cancels read failed → ∃ now, cancelled read now = .ok failed) :
    Versioned t (c.setClient n x) := by
  refine ⟨h.fresh, h.current, h.origin, h.history, fun m read hm => ?_, fun m read failed hm => ?_⟩
  · by_cases hmn : m = n
    · subst m
      obtain ⟨r, hr, rfl⟩ := hread read (by simpa [Clients.setClient] using hm)
      exact ⟨r, List.mem_of_mem_head? (h.current r hr), rfl⟩
    · exact h.reads m read (by simpa [Clients.setClient, hmn] using hm)
  · by_cases hmn : m = n
    · subst m
      exact hcancel read failed (by simpa [Clients.setClient] using hm)
    · exact h.cancels m read failed (by simpa [Clients.setClient, hmn] using hm)

theorem Versioned.stop {t : SettlementTable} {c : Clients} (h : Versioned t c) (n : Nat)
    (result : Except RepoError Settlement) : Versioned t (c.setClient n (.done result)) :=
  h.move (fun _ hr => by simp [Client.read] at hr) (fun _ _ hx => by simp at hx)

theorem Versioned.newest {t : SettlementTable} {c : Clients} (h : Versioned t c) {r : SettlementRow}
    (hr : r ∈ c.table.rows) : ∃ older, pastRows t r.id c.log = r :: older :=
  List.head?_eq_some_iff.mp (h.current r hr)

/-- A client whose version is still the row's has read the row as it is. -/
theorem Versioned.read_eq {t : SettlementTable} {c : Clients} (h : Versioned t c) {n : Nat}
    {read : Settlement} (hread : (c.client n).read = some read) {r : SettlementRow}
    (hr : r ∈ c.table.rows) (hid : r.id = read.id) (hv : r.version = read.version) :
    read = decodeSettlement r := by
  obtain ⟨q, hq, rfl⟩ := h.reads n read hread
  obtain ⟨older, hl⟩ := h.newest hr
  have hpast := h.history r.id
  rw [show (decodeSettlement q).id = r.id from hid.symm] at hq
  rw [hl] at hpast hq
  have heq : q = r := hpast.eq_newest hq hv.symm
  rw [heq]

/-- The clients after an `Update`: nobody holds more than before. -/
theorem reads_of_write {c : Clients} {n m : Nat} {read edited : Settlement} {next : Client}
    (hnext : next.read = none) {held : Settlement}
    (h : ((c.write n read edited next).client m).read = some held) :
    (c.client m).read = some held := by
  by_cases hmn : m = n
  · subst m
    simp only [Clients.write, Function.update_self] at h
    cases hres : (update c.table edited read.version c.now).2 with
    | ok u => simp [hres, updated, hnext] at h
    | error e => simp [hres, updated, Client.read] at h
  · simpa [Clients.write, hmn] using h

theorem cancels_of_write {c : Clients} {n m : Nat} {read edited : Settlement} {next : Client}
    (hnext : next.read = none) {held failed : Settlement}
    (h : (c.write n read edited next).client m = .cancels held failed) :
    c.client m = .cancels held failed := by
  have hread : (c.client m).read = some held :=
    reads_of_write hnext (congrArg Client.read h)
  by_cases hmn : m = n
  · subst m
    have hnone : ((c.write n read edited next).client n).read = none := by
      simp only [Clients.write, Function.update_self]
      cases (update c.table edited read.version c.now).2 with
      | ok u => exact hnext
      | error e => rfl
    rw [h] at hnone
    cases hnone
  · simpa [Clients.write, hmn] using h

theorem Versioned.write_missing {t : SettlementTable} {c : Clients} (h : Versioned t c) {n : Nat}
    {read edited : Settlement} {next : Client} (hnext : next.read = none)
    (hf : c.table.rows.find? (updates edited read.version) = none) :
    Versioned t (c.write n read edited next) := by
  obtain ⟨hrows, _⟩ := update_missing c.now hf
  have hlog : (c.write n read edited next).log = c.log := by simp [Clients.write, written, hf]
  have htable : (c.write n read edited next).table.rows = c.table.rows := hrows
  refine ⟨by rw [hlog]; exact h.fresh, by rw [hlog, htable]; exact h.current,
    by rw [htable]; exact h.origin, by rw [hlog]; exact h.history, ?_, ?_⟩
  · intro m held hm
    rw [hlog]
    exact h.reads m held (reads_of_write hnext hm)
  · intro m held failed hm
    exact h.cancels m held failed (cancels_of_write hnext hm)

/-- The histories with one more write, of the row at its next version. -/
theorem Versioned.history_cons {t : SettlementTable} {c : Clients} (h : Versioned t c)
    {r : SettlementRow} (hr : r ∈ c.table.rows) {w : Write} (hid : w.after.id = r.id)
    (hv : w.after.version = r.version + 1) (id : Int) :
    Optimistic.History SettlementRow.version (pastRows t id (w :: c.log)) := by
  rw [pastRows_cons]
  split
  next heq =>
    have hpast := h.history r.id
    obtain ⟨older, hl⟩ := h.newest hr
    rw [show id = r.id from heq.symm.trans hid, hl]
    rw [hl] at hpast
    exact hpast.push hv
  next => exact h.history id

/-- An `Update` that finds a row: it is the row the client has read. -/
theorem Versioned.write_found {t : SettlementTable} {c : Clients} (h : Versioned t c) {n : Nat}
    {read edited : Settlement} {next : Client} (hread : (c.client n).read = some read)
    (hid : edited.id = read.id) (hnext : next.read = none) {r : SettlementRow}
    (hf : c.table.rows.find? (updates edited read.version) = some r) :
    Versioned t (c.write n read edited next) := by
  obtain ⟨hr, hu, _, hrows⟩ := update_found c.now hf
  obtain ⟨hrid, _, hrv⟩ := updates_iff.mp hu
  -- the version test has passed, so nobody has written the row since the client read it
  have hsame : read = decodeSettlement r := h.read_eq hread hr (hrid.trans hid) hrv
  let w : Write := ⟨read, r, updatedRow edited read.version c.now r⟩
  have hlog : (c.write n read edited next).log = w :: c.log := by
    simp [Clients.write, written, hf, w]
  have hwid : w.after.id = r.id := rfl
  refine ⟨?_, ?_, ?_, ?_, ?_, ?_⟩
  · intro later e earlier heq
    rw [hlog] at heq
    cases later with
    | nil =>
      obtain ⟨rfl, rfl⟩ := List.cons.inj heq
      exact ⟨hsame, h.current r hr⟩
    | cons _ later => exact h.fresh later e earlier (List.cons.inj heq).2
  · intro q hq
    rw [hlog, pastRows_cons]
    rcases hrows q hq with rfl | ⟨hq, hne⟩
    · rw [if_pos (show w.after.id = (updatedRow edited read.version c.now r).id from rfl)]
      rfl
    · rw [if_neg (fun heq => hne (heq.symm.trans hwid))]
      exact h.current q hq
  · intro q hq
    rcases hrows q hq with rfl | ⟨hq, _⟩
    · exact h.origin r hr
    · exact h.origin q hq
  · intro id
    rw [hlog]
    exact h.history_cons hr hwid (show read.version + 1 = r.version + 1 by rw [hrv]) id
  · intro m held hm
    rw [hlog]
    obtain ⟨q, hq, heq⟩ := h.reads m held (reads_of_write hnext hm)
    refine ⟨q, ?_, heq⟩
    rw [pastRows_cons]
    split
    next => exact List.mem_cons_of_mem _ hq
    next => exact hq
  · intro m held failed hm
    exact h.cancels m held failed (cancels_of_write hnext hm)

theorem Versioned.write {t : SettlementTable} {c : Clients} (h : Versioned t c) {n : Nat}
    {read edited : Settlement} {next : Client} (hread : (c.client n).read = some read)
    (hid : edited.id = read.id) (hnext : next.read = none) :
    Versioned t (c.write n read edited next) := by
  cases hf : c.table.rows.find? (updates edited read.version) with
  | none => exact h.write_missing hnext hf
  | some r => exact h.write_found hread hid hnext hf

theorem Versioned.cancel {t : SettlementTable} {c c' : Clients} (h : Versioned t c) {n : Nat}
    {supplierID id : Int} (hs : c.step (.cancel n supplierID id) = some c') : Versioned t c' := by
  simp only [Clients.step] at hs
  split at hs
  all_goals first | contradiction | skip
  all_goals
    split at hs
    next => cases Option.some.inj hs; exact h.stop n _
    next read hget =>
      split at hs
      next => cases Option.some.inj hs; exact h.stop n _
      next failed hc =>
        cases Option.some.inj hs
        obtain ⟨r, hr, _, _, hread⟩ := getByID_ok hget
        refine h.move (fun s hx => ?_) (fun s f hx => ?_)
        · cases Option.some.inj hx
          exact ⟨r, hr, hread⟩
        · cases hx
          exact ⟨c.now, hc⟩

theorem Versioned.step {t : SettlementTable} {c c' : Clients} {a : Clients.Action} (h : Versioned t c)
    (hs : c.step a = some c') : Versioned t c' := by
  cases a with
  | tick elapsed =>
    cases Option.some.inj hs
    exact ⟨h.fresh, h.current, h.origin, h.history, h.reads, h.cancels⟩
  | getByID n supplierID id =>
    simp only [Clients.step] at hs
    split at hs
    all_goals first | contradiction | skip
    all_goals
      split at hs
      next => cases Option.some.inj hs; exact h.stop n _
      next read hget =>
        cases Option.some.inj hs
        obtain ⟨r, hr, _, _, hread⟩ := getByID_ok hget
        refine h.move (fun s hx => ?_) (fun s f hx => by cases hx)
        cases Option.some.inj hx
        exact ⟨r, hr, hread⟩
  | update n edited =>
    simp only [Clients.step] at hs
    split at hs
    next read hn =>
      split at hs
      next hsame =>
        cases Option.some.inj hs
        exact h.write (by rw [hn]; rfl) hsame.1 rfl
      next => cases hs
    next => cases hs
  | cancel n supplierID id => exact h.cancel hs
  | cancelUpdate n =>
    simp only [Clients.step] at hs
    split at hs
    next read failed hn =>
      cases Option.some.inj hs
      obtain ⟨now, hc⟩ := h.cancels n read failed hn
      obtain ⟨hfailed, _⟩ := cancelled_ok hc
      exact h.write (by rw [hn]; rfl) (by rw [hfailed]) rfl
    next => cases hs
  | reread n =>
    simp only [Clients.step] at hs
    split at hs
    next => cases Option.some.inj hs; exact h.stop n _
    next => cases hs
  | fail n err => cases Option.some.inj hs; exact h.stop n _

theorem Versioned.start (t : SettlementTable) (now : Time) : Versioned t (Clients.start t now) := by
  have hpast : ∀ id, pastRows t id [] = (t.rows.find? (fun r => r.id = id)).toList := fun id => rfl
  refine ⟨fun later w earlier heq => ?_, fun r hr => ?_, fun r hr => ⟨r, hr, rfl⟩, fun id => ?_, ?_, ?_⟩
  · simp [Clients.start] at heq
  · show (pastRows t r.id []).head? = some r
    rw [hpast, find_id_eq (t := t) hr]
    rfl
  · show Optimistic.History _ (pastRows t id [])
    rw [hpast]
    cases t.rows.find? (fun r => r.id = id) with
    | none => exact List.IsChain.nil
    | some r => exact List.IsChain.singleton r
  · intro n read hn
    cases hn
  · intro n read failed hn
    cases hn

/-- A pending settlement of supplier 1, as `CreateWithdrawTx` stores it. -/
def sampleRow : SettlementRow :=
  { id := 1, settlementNo := "19700101000000", userID := 1, totalAmount := 60000000,
    feeAmount := 600000, netAmount := 59400000, status := .pending, paymentMethod := .bank,
    paymentAccount := "acct", periodStart := zeroTime, periodEnd := zeroTime, totalOrders := 0,
    totalUsageRecords := 0, paymentTransactionID := "", paidAt := none, currencyCode := "USD",
    amountUnit := "minor", version := 0, requestID := "", idempotencyKey := "", auditTraceID := "",
    createdAt := 0, updatedAt := 0 }

def sampleTable : SettlementTable := ⟨[sampleRow], List.pairwise_singleton _ _⟩

end SupplyPlatform.Settlements
