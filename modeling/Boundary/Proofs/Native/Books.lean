import Boundary.Proofs.Handle.Run
import Boundary.Proofs.Native.Accounting

/-!
# Books about the handles of a run

In a run of calls every handle that is handed back is new, and every live handle has been handed
back and not been taken away since.

* `EntryCall`, `Schema.after`, `Schema.history`: runs of calls.
* `Schema.handedBack?`, `Schema.takenAway`: what a call adds to the books.
* `Accounts`: a call does what the books say, and nothing else.
* `Tables.Books`: the books of what has been handed back and taken away so far are right.
* `Tables.Books.remove`, `Tables.Books.stored`: the books are kept.
* `Accepted.accounts_of_run`: the calls of a run whose functions are careful.
-/

namespace Boundary

open Native HandleTable

/-! ## Runs -/

/-- A call of `entry` with the arguments `args`. -/
structure EntryCall where
  entry : EntryPoint
  args : List FlatValue

namespace Schema

variable (s : Schema) (library : Library)

/-- The tables after `calls`. -/
def after (ts : Tables) (calls : List EntryCall) : Tables :=
  calls.foldl (fun ts c => (s.call library c.entry c.args ts).2) ts

/-- The calls of a run, each with the tables that it finds. -/
def history : Tables → List EntryCall → List (Tables × EntryCall)
  | _, [] => []
  | ts, c :: rest => (ts, c) :: history (s.call library c.entry c.args ts).2 rest

/-- The handle that the call `c` hands back on the tables `ts`. -/
def handedBack? (ts : Tables) (c : EntryCall) : Option (TypeId × Handle) :=
  (s.returned c.entry.purpose).handedBack? (s.call library c.entry c.args ts).1

/-- The handles of `s.surrendered` that are live on the tables `ts`. -/
def takenAway (ts : Tables) (c : EntryCall) : List (TypeId × Handle) :=
  if callCode (s.call library c.entry c.args ts).1 = .contract then []
  else (s.surrendered c.args c.entry.purpose).filter fun d => ts.Live d

/-- The handles that `calls` hand back, one after another. -/
def handedBackIn (ts : Tables) (calls : List EntryCall) : List (TypeId × Handle) :=
  (s.history library ts calls).filterMap fun (ts, c) => s.handedBack? library ts c

/-- The live handles that `calls` take away, one after another. -/
def takenAwayIn (ts : Tables) (calls : List EntryCall) : List (TypeId × Handle) :=
  (s.history library ts calls).flatMap fun (ts, c) => s.takenAway library ts c

end Schema

/-- A call that ends with `end_` does what is expected of it and nothing else, where it returns a
value of the type `t`, surrenders the handles `surrendered`, and the handles `issued` have been
handed back before it. -/
structure Accounts (t : TypeRef) (ret : FlatType) (surrendered issued : List (TypeId × Handle))
    (ts : Tables) (end_ : Except Trap FlatValue × Tables) : Prop where
  /-- A call with the code `contract` changes nothing and returns the default. -/
  unchanged : callCode end_.1 = .contract →
    end_.2 = ts ∧ callResult ret.default end_.1 = ret.default
  /-- Otherwise it removes each of `surrendered`. -/
  removed : callCode end_.1 ≠ .contract → ∀ d ∈ surrendered, ¬ end_.2.Live d
  /-- What it hands back is none of `issued`, and live from now on. -/
  fresh : ∀ d, t.handedBack? end_.1 = some d →
    d.2 ≠ 0 ∧ d ∉ issued ∧ ¬ ts.Live d ∧ end_.2.Live d
  /-- Any other handle gives access to what it gave access to before. -/
  kept : ∀ d, d ∉ surrendered → t.handedBack? end_.1 ≠ some d →
    (end_.2 d.1).get d.2 = (ts d.1).get d.2
  /-- The value behind a handle that stays live does not change. -/
  steady : ∀ d, ts.Live d → end_.2.Live d → (end_.2 d.1).get d.2 = (ts d.1).get d.2

/-- How often `slot` of the table of `id` is named by `handles`. -/
def vacationsOf (handles : List (TypeId × Handle)) (id : TypeId) (slot : Nat) : Nat :=
  handles.countP fun d => d.1 = id ∧ d.2.index = slot

theorem vacationsOf_append (front back : List (TypeId × Handle)) (id : TypeId) (slot : Nat) :
    vacationsOf (front ++ back) id slot = vacationsOf front id slot + vacationsOf back id slot :=
  List.countP_append

private theorem vacationsOf_singleton (c : TypeId × Handle) (id : TypeId) (slot : Nat) :
    vacationsOf [c] id slot = if c.1 = id ∧ c.2.index = slot then 1 else 0 := by
  simp [vacationsOf, List.countP_singleton]

/-! ## Books -/

namespace Native.Tables

/-- The books are right: each table `Tracks` events that have issued the handles `issued` and
vacated the slots of `vacated`. -/
def Books (ts : Tables) (issued vacated : List (TypeId × Handle)) : Prop :=
  ∀ id, ∃ past, (ts id).Tracks past ∧ (∀ h, h ∈ issuedHandles past ↔ (id, h) ∈ issued) ∧
    ∀ i, vacations past i = vacationsOf vacated id i

variable {ts ts' : Tables} {issued vacated : List (TypeId × Handle)} {c : TypeId × Handle}

private theorem books_empty : Books (fun _ => {}) [] [] := by
  intro id
  exact ⟨[], Tracks.empty, by simp [issuedHandles], by simp [vacations, vacationsOf]⟩

/-- A live handle is one of `issued`. -/
theorem Books.mem_of_live (h : ts.Books issued vacated) (hlive : ts.Live c) : c ∈ issued := by
  obtain ⟨past, htracks, hissued, -⟩ := h c.1
  obtain ⟨v, hv⟩ := hlive
  obtain ⟨older, e, newer, rfl, he, -⟩ :=
    (htracks.find?_iff c.2 v).mp ((get_eq_ok_iff htracks.wellFormed).mp hv)
  refine (hissued c.2).mp ?_
  exact List.mem_filterMap.mpr ⟨e, by simp, by rw [he]; rfl⟩

theorem Books.remove (h : ts.Books issued vacated) (hlive : ts.Live c)
    (hvac : vacationsOf (vacated ++ [c]) c.1 c.2.index < 0xFFFFFFFF) :
    (ts.remove c).Books issued (vacated ++ [c]) := by
  intro id
  obtain ⟨past, htracks, hissued, hvacations⟩ := h id
  by_cases hid : id = c.1
  · subst hid
    obtain ⟨v, hv⟩ := hlive
    have hcount : ∀ i, vacations (past ++ [⟨.remove c.2, .removed true⟩]) i =
        vacationsOf (vacated ++ [c]) c.1 i := by
      intro i
      rw [vacations_snoc_of_some rfl, hvacations, vacationsOf_append, vacationsOf_singleton]
      simp [eq_comm]
    refine ⟨past ++ [⟨.remove c.2, .removed true⟩], ?_, ?_, hcount⟩
    · rw [Tables.remove, put_self, remove_of_get_eq_ok hv]
      exact htracks.vacate ((get_eq_ok_iff htracks.wellFormed).mp hv) rfl rfl (by rwa [hcount])
    · intro k
      rw [mem_issuedHandles_snoc, hissued]
      simp [HandleEvent.issued?]
  · refine ⟨past, ?_, hissued, ?_⟩
    · rw [Tables.remove, put_of_ne _ hid]
      exact htracks
    · intro i
      rw [hvacations, vacationsOf_append, vacationsOf_singleton]
      simp [Ne.symm hid]

theorem Books.stored {e : Option (TypeId × Handle)} (h : ts.Books issued vacated)
    (hstored : ts.Stored e ts') (hslots : ∀ id, (ts' id).slots.length ≤ 0x100000000) :
    ts'.Books (issued ++ e.toList) vacated := by
  cases hstored with
  | nothing => simpa using h
  | value id v =>
    intro i
    obtain ⟨past, htracks, hissued, hvacations⟩ := h i
    by_cases hi : i = id
    · subst hi
      have hlen := hslots i
      rw [put_self] at hlen ⊢
      refine ⟨past ++ [⟨.insert v, .issued ((ts i).insert v).1⟩],
        htracks.insert v hlen rfl rfl, ?_, ?_⟩
      · intro k
        rw [mem_issuedHandles_snoc, hissued]
        simp [HandleEvent.issued?, eq_comm]
      · intro j
        rw [vacations_snoc_of_none rfl, hvacations]
    · rw [put_of_ne _ hi]
      refine ⟨past, htracks, ?_, hvacations⟩
      intro k
      rw [hissued]
      simp [hi]

/-- The handle `d` of what has been `Stored` is new, and lives. -/
theorem Books.fresh {d : TypeId × Handle} (h : ts.Books issued vacated)
    (hstored : ts.Stored (some d) ts') (hslots : ∀ id, (ts' id).slots.length ≤ 0x100000000) :
    d.2 ≠ 0 ∧ d ∉ issued ∧ ts'.Live d := by
  cases hstored with
  | value id v =>
    obtain ⟨past, htracks, hissued, -⟩ := h id
    have hlen := hslots id
    rw [put_self] at hlen
    have hne := insert_fst_ne_zero htracks.wellFormed v
    refine ⟨hne, ?_, v, ?_⟩
    · rw [← hissued]
      exact htracks.insert_fst_notMem v hlen
    · rw [put_self, get_eq_ok_iff_find?, find?_insert htracks.wellFormed v hlen, if_pos rfl]
      exact ⟨hne, rfl⟩

/-- No other handle than that of `Stored` gives access to anything else than before. -/
theorem Books.get_stored {e : Option (TypeId × Handle)} {d : TypeId × Handle}
    (h : ts.Books issued vacated) (hstored : ts.Stored e ts')
    (hslots : ∀ id, (ts' id).slots.length ≤ 0x100000000) (hne : e ≠ some d) :
    (ts' d.1).get d.2 = (ts d.1).get d.2 := by
  cases hstored with
  | nothing => rfl
  | value id v =>
    by_cases hid : d.1 = id
    · subst hid
      obtain ⟨past, htracks, -, -⟩ := h d.1
      have hlen := hslots d.1
      rw [put_self] at hlen ⊢
      refine get_congr ?_
      rw [find?_insert htracks.wellFormed v hlen, if_neg]
      intro heq
      exact hne (congrArg some (Prod.ext rfl heq.symm))
    · rw [put_of_ne _ hid]

/-- `removeAll` of at most one handle keeps the books, where the handle is added to `vacated` if it
was live. -/
theorem Books.removeAll {cs : List (TypeId × Handle)} (h : ts.Books issued vacated)
    (hcs : cs.length ≤ 1)
    (hvac : ∀ id i, vacationsOf (vacated ++ cs.filter fun d => ts.Live d) id i < 0xFFFFFFFF) :
    (ts.removeAll cs).Books issued (vacated ++ cs.filter fun d => ts.Live d) := by
  match cs with
  | [] =>
    rw [List.filter_nil, List.append_nil]
    exact h
  | [c] =>
    by_cases hlive : ts.Live c
    · have hfilter : [c].filter (fun d => ts.Live d) = [c] := by simp [hlive]
      rw [hfilter] at hvac ⊢
      exact h.remove hlive (hvac _ _)
    · have hfilter : [c].filter (fun d => ts.Live d) = [] := by simp [hlive]
      rw [hfilter, List.append_nil]
      show (ts.remove c).Books issued vacated
      rw [remove_of_not_live hlive]
      exact h

private theorem get_removeAll_of_notMem {cs : List (TypeId × Handle)} {d : TypeId × Handle}
    (h : d ∉ cs) : (ts.removeAll cs d.1).get d.2 = (ts d.1).get d.2 := by
  induction cs generalizing ts with
  | nil => rfl
  | cons c rest ih =>
    rw [List.mem_cons, not_or] at h
    exact (ih h.2).trans (get_remove_of_ne h.1)

/-! ### Slots are never given up -/

private theorem length_slots_remove (c : TypeId × Handle) (id : TypeId) :
    (ts.remove c id).slots.length = (ts id).slots.length := by
  by_cases hid : id = c.1
  · subst hid
    rw [remove, put_self]
    cases hget : (ts c.1).get c.2 with
    | error e => rw [remove_of_get_eq_error hget]
    | ok v =>
      rw [remove_of_get_eq_ok hget]
      exact List.length_set
  · rw [remove, put_of_ne _ hid]

theorem length_slots_removeAll (cs : List (TypeId × Handle)) (id : TypeId) :
    (ts.removeAll cs id).slots.length = (ts id).slots.length := by
  induction cs generalizing ts with
  | nil => rfl
  | cons c rest ih => exact ih.trans (length_slots_remove c id)

theorem Stored.length_slots_le {e : Option (TypeId × Handle)} (h : ts.Stored e ts')
    (id : TypeId) : (ts id).slots.length ≤ (ts' id).slots.length := by
  cases h with
  | nothing => exact Nat.le_refl _
  | value i v =>
    by_cases hid : id = i
    · rw [hid, put_self]
      exact length_slots_le_insert _ v
    · exact Nat.le_of_eq (by rw [put_of_ne _ hid])

theorem Stored.length_slots_le_succ {e : Option (TypeId × Handle)} (h : ts.Stored e ts')
    (id : TypeId) : (ts' id).slots.length ≤ (ts id).slots.length + 1 := by
  cases h with
  | nothing => exact Nat.le_succ _
  | value i v =>
    by_cases hid : id = i
    · rw [hid, put_self]
      exact length_slots_insert_le _ v
    · rw [put_of_ne _ hid]
      exact Nat.le_succ _

end Native.Tables

/-! ## Calls -/

section Calls

variable {s : Schema} {library : Library} {ts : Tables} {issued vacated : List (TypeId × Handle)}
  {c : EntryCall}

theorem TypeRef.handedBack?_of_contract (t : TypeRef) {trap : Trap} (h : trap.code = .contract) :
    t.handedBack? (.error trap) = none := by
  cases trap with
  | abort message => cases h
  | error e =>
    cases e with
    | native payload => cases h
    | _ => cases t <;> rfl

/-- The books are kept by a call that is `Accounted` for. -/
theorem Native.Tables.Books.call (h : ts.Books issued vacated)
    (hacc : Accounted (s.returned c.entry.purpose) (s.surrendered c.args c.entry.purpose) ts
      (s.call library c.entry c.args ts))
    (hlength : (s.surrendered c.args c.entry.purpose).length ≤ 1)
    (hslots : ∀ id, ((s.call library c.entry c.args ts).2 id).slots.length ≤ 0x100000000)
    (hvac : ∀ id i, vacationsOf (vacated ++ s.takenAway library ts c) id i < 0xFFFFFFFF) :
    (s.call library c.entry c.args ts).2.Books
      (issued ++ (s.handedBack? library ts c).toList) (vacated ++ s.takenAway library ts c) := by
  unfold Schema.takenAway at hvac ⊢
  unfold Schema.handedBack?
  generalize s.call library c.entry c.args ts = r at hacc hslots hvac
  cases hacc with
  | unchanged trap hcode =>
    have hcontract : callCode (.error trap : Except Trap FlatValue) = .contract := hcode
    rw [TypeRef.handedBack?_of_contract _ hcode, if_pos hcontract]
    simpa using h
  | done hcode hstored _ =>
    rw [if_neg hcode] at hvac ⊢
    exact (h.removeAll hlength hvac).stored hstored hslots

/-- **A call that is `Accounted` for does just what `Accounts` says.** -/
theorem Native.Accounted.accounts {t : TypeRef} {cs : List (TypeId × Handle)}
    {end_ : Except Trap FlatValue × Tables} (hacc : Accounted t cs ts end_)
    (h : ts.Books issued vacated) (hlength : cs.length ≤ 1)
    (hslots : ∀ id, (end_.2 id).slots.length ≤ 0x100000000)
    (hvac : callCode end_.1 ≠ .contract →
      ∀ id i, vacationsOf (vacated ++ cs.filter fun d => ts.Live d) id i < 0xFFFFFFFF)
    (ret : FlatType) : Accounts t ret cs issued ts end_ := by
  cases hacc with
  | unchanged trap hcode =>
    have hnone := t.handedBack?_of_contract hcode
    refine ⟨fun _ => ⟨rfl, rfl⟩, fun hne => absurd hcode hne, ?_, fun _ _ _ => rfl,
      fun _ _ _ => rfl⟩
    intro d hd
    rw [hnone] at hd
    cases hd
  | @done e ts' hcode hstored hlive =>
    have hbooks := h.removeAll hlength (hvac hcode)
    have hremoved : ∀ d ∈ cs, ¬ ts'.Live d := by
      intro d hd
      obtain hlive | hnone := hlive
      · exact hstored.not_live_of_mem hd (hlive d hd)
      · rw [hnone] at hstored
        cases hstored
        rw [Tables.live_removeAll_iff]
        exact fun hd' => hd'.1 hd
    have hfresh : ∀ d, t.handedBack? e = some d →
        d.2 ≠ 0 ∧ d ∉ issued ∧ ¬ ts.Live d ∧ ts'.Live d := by
      intro d hd
      rw [hd] at hstored
      obtain ⟨hne, hnew, hd'⟩ := hbooks.fresh hstored hslots
      exact ⟨hne, hnew, fun hold => hnew (h.mem_of_live hold), hd'⟩
    have hkept : ∀ d, d ∉ cs → t.handedBack? e ≠ some d →
        (ts' d.1).get d.2 = (ts d.1).get d.2 := by
      intro d hd hne
      rw [hbooks.get_stored hstored hslots hne, Tables.get_removeAll_of_notMem hd]
    refine ⟨fun heq => absurd heq hcode, fun _ => hremoved, hfresh, hkept, ?_⟩
    intro d hbefore hafter
    exact hkept d (fun hd => hremoved d hd hafter) fun hd => (hfresh d hd).2.2.1 hbefore

theorem Native.Accounted.length_slots_le {t : TypeRef} {cs : List (TypeId × Handle)}
    {end_ : Except Trap FlatValue × Tables} (hacc : Accounted t cs ts end_) (id : TypeId) :
    (ts id).slots.length ≤ (end_.2 id).slots.length := by
  cases hacc with
  | unchanged => exact Nat.le_refl _
  | done _ hstored _ =>
    rw [← Tables.length_slots_removeAll cs id]
    exact hstored.length_slots_le id

theorem Native.Accounted.length_slots_le_succ {t : TypeRef} {cs : List (TypeId × Handle)}
    {end_ : Except Trap FlatValue × Tables} (hacc : Accounted t cs ts end_) (id : TypeId) :
    (end_.2 id).slots.length ≤ (ts id).slots.length + 1 := by
  cases hacc with
  | unchanged => exact Nat.le_succ _
  | done _ hstored _ =>
    have hsame : (ts.removeAll cs id).slots.length = (ts id).slots.length :=
      Tables.length_slots_removeAll cs id
    rw [← hsame]
    exact hstored.length_slots_le_succ id

theorem Schema.length_surrendered_le (hcareful : ∀ f ∈ s.functions, f.IsCareful)
    (args : List FlatValue) (purpose : EntryPurpose) :
    (s.surrendered args purpose).length ≤ 1 := by
  cases purpose with
  | free id =>
    simp only [surrendered]
    split <;> simp
  | function id =>
    simp only [surrendered]
    cases hf : s.function? id with
    | none => exact Nat.zero_le 1
    | some f =>
      refine Nat.le_trans (f.length_consumed_le args) ?_
      obtain h | ⟨h, -⟩ := hcareful f (List.mem_of_find?_eq_some hf) <;> omega
  | _ => exact Nat.zero_le 1

end Calls

/-! ## Runs and the books -/

namespace Schema

variable (s : Schema) (library : Library) (ts : Tables) (before : List EntryCall)

private theorem after_append (rest : List EntryCall) :
    s.after library ts (before ++ rest) = s.after library (s.after library ts before) rest :=
  List.foldl_append

private theorem history_append (rest : List EntryCall) :
    s.history library ts (before ++ rest) =
      s.history library ts before ++ s.history library (s.after library ts before) rest := by
  induction before generalizing ts with
  | nil => rfl
  | cons c before ih => exact congrArg ((ts, c) :: ·) (ih _)

private theorem takenAwayIn_append (rest : List EntryCall) :
    s.takenAwayIn library ts (before ++ rest) =
      s.takenAwayIn library ts before ++
        s.takenAwayIn library (s.after library ts before) rest := by
  unfold takenAwayIn
  rw [history_append, List.flatMap_append]

theorem takenAwayIn_cons (c : EntryCall) (rest : List EntryCall) :
    s.takenAwayIn library ts (c :: rest) =
      s.takenAway library ts c ++ s.takenAwayIn library (s.call library c.entry c.args ts).2 rest :=
  List.flatMap_cons

/-- No call of a run takes away more than one handle, if the functions are `IsCareful`. -/
theorem length_takenAwayIn_le (hcareful : ∀ f ∈ s.functions, f.IsCareful)
    (calls : List EntryCall) : (s.takenAwayIn library ts calls).length ≤ calls.length := by
  induction calls generalizing ts with
  | nil => exact Nat.le_refl 0
  | cons c rest ih =>
    have hfirst : (s.takenAway library ts c).length ≤ 1 := by
      unfold takenAway
      split
      · exact Nat.zero_le 1
      · exact Nat.le_trans (List.length_filter_le _ _) (s.length_surrendered_le hcareful _ _)
    have hrest := ih (s.call library c.entry c.args ts).2
    rw [takenAwayIn_cons, List.length_append, List.length_cons]
    omega

private theorem handedBackIn_cons (c : EntryCall) (rest : List EntryCall) :
    s.handedBackIn library ts (c :: rest) = (s.handedBack? library ts c).toList ++
      s.handedBackIn library (s.call library c.entry c.args ts).2 rest := by
  simp only [handedBackIn, history, List.filterMap_cons]
  cases s.handedBack? library ts c <;> rfl

end Schema

namespace Accepted

variable {facade : String} {ds : List Declaration} {s : Schema} {start : String}
  {library : Library} {ts : Tables} {issued vacated : List (TypeId × Handle)}

section

variable (h : Accepted facade ds s) (hcareful : ∀ f ∈ s.functions, f.IsCareful)
  (hlibrary : ∀ f ∈ s.functions, ∀ values,
    (library (s.ownerName f) f.name values).Suits f.returns)

include h hcareful hlibrary

/-- A run never gives up slots of the table of `id`. -/
theorem length_slots_le_after (calls : List EntryCall)
    (hcalls : ∀ c ∈ calls, c.entry ∈ s.entryPoints start) (ts : Tables) (id : TypeId) :
    (ts id).slots.length ≤ (s.after library ts calls id).slots.length := by
  induction calls generalizing ts with
  | nil => exact Nat.le_refl _
  | cons c rest ih =>
    have hacc := h.accounted hcareful hlibrary (hcalls c (by simp)) c.args ts
    exact Nat.le_trans (hacc.length_slots_le id) (ih (fun c hc => hcalls c (by simp [hc])) _)

/-- No call of a run makes more than one slot in the table of `id`. -/
theorem length_slots_after_le (calls : List EntryCall)
    (hcalls : ∀ c ∈ calls, c.entry ∈ s.entryPoints start) (ts : Tables) (id : TypeId) :
    (s.after library ts calls id).slots.length ≤ (ts id).slots.length + calls.length := by
  induction calls generalizing ts with
  | nil => exact Nat.le_refl _
  | cons c rest ih =>
    have hacc := h.accounted hcareful hlibrary (hcalls c (by simp)) c.args ts
    have hfirst := hacc.length_slots_le_succ id
    have hrest := ih (fun c hc => hcalls c (by simp [hc])) (s.call library c.entry c.args ts).2
    rw [List.length_cons]
    exact Nat.le_trans hrest (by omega)

/-- The books are kept by a run, as long as no index and no generation overflows. -/
theorem books_after (calls : List EntryCall)
    (hcalls : ∀ c ∈ calls, c.entry ∈ s.entryPoints start) (hbooks : ts.Books issued vacated)
    (hslots : ∀ id, (s.after library ts calls id).slots.length ≤ 0x100000000)
    (hvac : ∀ id i, vacationsOf (vacated ++ s.takenAwayIn library ts calls) id i < 0xFFFFFFFF) :
    (s.after library ts calls).Books (issued ++ s.handedBackIn library ts calls)
      (vacated ++ s.takenAwayIn library ts calls) := by
  induction calls generalizing ts issued vacated with
  | nil =>
    simpa [Schema.handedBackIn, Schema.takenAwayIn, Schema.history, Schema.after] using hbooks
  | cons c rest ih =>
    have hrest : ∀ c ∈ rest, c.entry ∈ s.entryPoints start := fun c hc => hcalls c (by simp [hc])
    rw [Schema.takenAwayIn_cons, ← List.append_assoc] at hvac ⊢
    rw [Schema.handedBackIn_cons, ← List.append_assoc]
    refine ih hrest (hbooks.call ?_ ?_ ?_ ?_) hslots hvac
    · exact h.accounted hcareful hlibrary (hcalls c (by simp)) c.args ts
    · exact s.length_surrendered_le hcareful c.args c.entry.purpose
    · intro id
      exact Nat.le_trans (h.length_slots_le_after hcareful hlibrary rest hrest _ id) (hslots id)
    · intro id i
      have hi := hvac id i
      rw [vacationsOf_append] at hi
      omega

/-- **The calls of a run account for their handles.** In a run from empty tables that makes no
more than 2 ^ 32 slots in a table and vacates none of them 2 ^ 32 - 1 times, each call removes
what it surrenders and puts in what it hands back, behind a new handle, or breaks the contract
and changes nothing. -/
theorem accounts_of_run (calls : List EntryCall)
    (hcalls : ∀ c ∈ calls, c.entry ∈ s.entryPoints start)
    (hslots : ∀ id, (s.after library (fun _ => {}) calls id).slots.length ≤ 0x100000000)
    (hvac : ∀ id i, vacationsOf (s.takenAwayIn library (fun _ => {}) calls) id i < 0xFFFFFFFF) :
    ∀ before c rest, calls = before ++ c :: rest →
      let ts := s.after library (fun _ => {}) before
      Accounts (s.returned c.entry.purpose) c.entry.ret (s.surrendered c.args c.entry.purpose)
        (s.handedBackIn library (fun _ => {}) before) ts (s.call library c.entry c.args ts) := by
  rintro before c rest rfl
  intro ts
  have hbefore : ∀ c ∈ before, c.entry ∈ s.entryPoints start := fun c hc => hcalls c (by simp [hc])
  have hrest : ∀ c' ∈ c :: rest, c'.entry ∈ s.entryPoints start := by
    intro c' hc'
    exact hcalls c' (List.mem_append_right before hc')
  rw [Schema.after_append] at hslots
  rw [Schema.takenAwayIn_append, Schema.takenAwayIn_cons] at hvac
  have hbooks : ts.Books (s.handedBackIn library (fun _ => {}) before)
      (s.takenAwayIn library (fun _ => {}) before) := by
    refine h.books_after hcareful hlibrary before hbefore Tables.books_empty ?_ ?_
    · intro id
      exact Nat.le_trans (h.length_slots_le_after hcareful hlibrary _ hrest ts id) (hslots id)
    · intro id i
      have hi := hvac id i
      rw [vacationsOf_append] at hi
      rw [List.nil_append]
      omega
  have hacc := h.accounted hcareful hlibrary (hcalls c (by simp)) c.args ts
  refine hacc.accounts hbooks (s.length_surrendered_le hcareful _ _) ?_ ?_ c.entry.ret
  · intro id
    have hlater : ∀ c' ∈ rest, c'.entry ∈ s.entryPoints start :=
      fun c' hc' => hrest c' (by simp [hc'])
    exact Nat.le_trans (h.length_slots_le_after hcareful hlibrary rest hlater _ id) (hslots id)
  · intro hcode id i
    have hi := hvac id i
    rw [← List.append_assoc, vacationsOf_append, Schema.takenAway, if_neg hcode] at hi
    exact Nat.lt_of_le_of_lt (Nat.le_add_right _ _) hi

end

end Accepted

end Boundary
