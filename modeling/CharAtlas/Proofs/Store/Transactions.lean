import CharAtlas.Proofs.Store.Statements
import CharAtlas.Proofs.Traversal

/-! # Transactions

Over a connection statements are carried out one after the other. Any of them may fail, for what the
tables say or for a reason from outside (`Connection.fault`), and what those before it have done stays
done (`Connection.perform_statements`), unless they are taken together in a transaction, which is rolled
back then (`Connection.perform_atomically`). -/

namespace CharAtlas

structure Connection where
  tables : Tables
  isOpen : Bool
  /-- What a rollback brings back, while a transaction is going on. -/
  saved : Option Tables := none
  /-- After so many steps every further one fails with this error. -/
  fault : Option (Nat × StoreError) := none

namespace Connection

/-- What an action has done to the tables before it fails stays done. -/
abbrev Action (α : Type) :=
  ExceptT Error (StateM Connection) α

def perform {α : Type} (c : Connection) (x : Action α) : Except Error α × Connection :=
  x.run.run c

/-- One step, unless the fault has come. -/
def step (run : Connection → Except StoreError Connection) : Action Unit :=
  .mk fun c =>
    match c.fault with
    | some (0, e) => (.error (.store e), c)
    | fault =>
      match run c with
      | .ok c' => (.ok (), { c' with fault := fault.map fun (n, e) => (n - 1, e) })
      | .error e => (.error (.store e), c)

def execute (s : Statement) : Action Unit :=
  step fun c => (s.exec c.tables).map fun t => { c with tables := t }

def statements (l : List Statement) : Action Unit :=
  l.forM execute

/-- A closed database gives no connection. -/
def acquire : Action Unit := do
  if !(← get).isOpen then throw (.store .closed)

def begin : Action Unit :=
  step fun c => .ok { c with saved := some c.tables }

def commit : Action Unit :=
  step fun c => .ok { c with saved := none }

def rollback : Action Unit :=
  modify fun c => { c with tables := c.saved.getD c.tables, saved := none }

/-- Each statement for itself. -/
def separately (l : List Statement) : Action Unit := do
  acquire
  statements l

/-- A transaction that is not committed is rolled back. -/
def atomically (l : List Statement) : Action Unit := do
  acquire
  begin
  tryCatch (do statements l; commit) fun e => do
    rollback
    throw e

section
variable {α β : Type} {c c' : Connection}

theorem perform_bind (c : Connection) (x : Action α) (k : α → Action β) : c.perform (x >>= k) =
    match c.perform x with
    | (.ok a, c') => c'.perform (k a)
    | (.error e, c') => (.error e, c') := by
  show (ExceptT.bindCont k (c.perform x).1).run (c.perform x).2 = _
  rcases c.perform x with ⟨e | a, c'⟩
  · rfl
  · rfl

theorem perform_tryCatch (c : Connection) (x : Action α) (handle : Error → Action α) :
    c.perform (tryCatch x handle) =
      match c.perform x with
      | (.ok a, c') => (.ok a, c')
      | (.error e, c') => c'.perform (handle e) := by
  unfold perform
  rw [ExceptT.run_tryCatch, StateT.run_bind]
  rcases x.run.run c with ⟨e | a, c'⟩
  · rfl
  · rfl

/-- What statements leave alone. A fault does not come by itself. -/
structure Kept (c c' : Connection) : Prop where
  isOpen : c'.isOpen = c.isOpen
  saved : c'.saved = c.saved
  fault : c.fault = none → c'.fault = none

theorem Kept.refl (c : Connection) : Kept c c := ⟨rfl, rfl, id⟩

theorem Kept.trans {c'' : Connection} (h : Kept c c') (h' : Kept c' c'') : Kept c c'' :=
  ⟨h'.isOpen.trans h.isOpen, h'.saved.trans h.saved, fun hc => h'.fault (h.fault hc)⟩

theorem perform_acquire (c : Connection) : c.perform acquire =
    if c.isOpen then (.ok (), c) else (.error (.store .closed), c) := by
  have hget : c.perform get = (.ok c, c) := rfl
  unfold acquire
  rw [perform_bind, hget]
  dsimp only
  cases c.isOpen with
  | true => rfl
  | false => rfl

/-- A step that fails has done nothing. -/
theorem perform_step (c : Connection) (run : Connection → Except StoreError Connection) :
    (∃ c' fault, run c = .ok c' ∧ (c.fault = none → fault = none) ∧
      c.perform (step run) = (.ok (), { c' with fault := fault })) ∨
    ∃ e, c.perform (step run) = (.error (.store e), c) ∧ (c.fault = none → run c = .error e) := by
  have hstep : c.perform (step run) =
      match c.fault with
      | some (0, e) => (.error (.store e), c)
      | fault =>
        match run c with
        | .ok c' => (.ok (), { c' with fault := fault.map fun (n, e) => (n - 1, e) })
        | .error e => (.error (.store e), c) := rfl
  rw [hstep]
  split
  next e hfault => exact .inr ⟨e, rfl, fun h => by rw [hfault] at h; cases h⟩
  next =>
    cases run c with
    | ok c' => exact .inl ⟨c', _, rfl, fun h => by rw [h]; rfl, rfl⟩
    | error e => exact .inr ⟨e, rfl, fun _ => rfl⟩

theorem perform_execute (c : Connection) (s : Statement) : ∃ c', Kept c c' ∧
    (c.perform (execute s) = (.ok (), c') ∧ s.exec c.tables = .ok c'.tables ∨
    ∃ e, c.perform (execute s) = (.error (.store e), c') ∧ c'.tables = c.tables ∧
      (c.fault = none → s.exec c.tables = .error e)) := by
  rcases perform_step c fun c => (s.exec c.tables).map fun t => { c with tables := t } with
    ⟨c', fault, hrun, hfault, hstep⟩ | ⟨e, hstep, hrun⟩
  · obtain ⟨t, ht, rfl⟩ := map_eq_ok_iff.1 hrun
    exact ⟨{ c with tables := t, fault := fault }, ⟨rfl, rfl, hfault⟩, .inl ⟨hstep, ht⟩⟩
  · refine ⟨c, .refl c, .inr ⟨e, hstep, rfl, fun h => ?_⟩⟩
    exact map_eq_error_iff.1 (hrun h)

/-- If a statement fails, those before it have been carried out. -/
theorem perform_statements (c : Connection) (l : List Statement) : ∃ c', Kept c c' ∧
    (c.perform (statements l) = (.ok (), c') ∧ transaction l c.tables = .ok c'.tables ∨
    ∃ before s after e, l = before ++ s :: after ∧
      c.perform (statements l) = (.error (.store e), c') ∧
      transaction before c.tables = .ok c'.tables ∧
      (c.fault = none → s.exec c'.tables = .error e)) := by
  induction l generalizing c with
  | nil => exact ⟨c, .refl c, .inl ⟨rfl, rfl⟩⟩
  | cons s l ih =>
    have hcons : c.perform (statements (s :: l)) =
        c.perform (execute s >>= fun _ => statements l) := rfl
    rw [hcons, perform_bind]
    obtain ⟨c₁, hkept, ⟨hs, hexec⟩ | ⟨e, hs, htables, he⟩⟩ := perform_execute c s
    · rw [hs]
      obtain ⟨c', hkept', ⟨hl, hrest⟩ | ⟨before, s', after, e, rfl, hl, hrest, he⟩⟩ := ih c₁
      · exact ⟨c', hkept.trans hkept', .inl ⟨hl, by rw [transaction_cons, hexec]; exact hrest⟩⟩
      · refine ⟨c', hkept.trans hkept', .inr ⟨s :: before, s', after, e, rfl, hl, ?_, ?_⟩⟩
        · rw [transaction_cons, hexec]
          exact hrest
        · exact fun h => he (hkept.fault h)
    · rw [hs]
      refine ⟨c₁, hkept, .inr ⟨[], s, l, e, rfl, rfl, ?_, ?_⟩⟩
      · rw [htables]
        rfl
      · rwa [htables]

theorem transaction_append (l l' : List Statement) (t : Tables) :
    transaction (l ++ l') t = transaction l t >>= transaction l' :=
  List.foldlM_append

theorem transaction_eq_error {before after : List Statement} {s : Statement} {t t' : Tables}
    {e : StoreError} (h : transaction before t = .ok t') (hs : s.exec t' = .error e) :
    transaction (before ++ s :: after) t = .error e := by
  rw [transaction_append, h, ← hs]
  show transaction (s :: after) t' = s.exec t'
  rw [transaction_cons, hs]
  rfl

/-- Taken for themselves, statements are carried out up to the one that fails. -/
theorem perform_separately (c : Connection) (l : List Statement) : ∃ c', Kept c c' ∧
    (c.perform (separately l) = (.ok (), c') ∧ c.isOpen = true ∧
      transaction l c.tables = .ok c'.tables ∨
    ∃ before after e, l = before ++ after ∧ (after = [] → l = []) ∧
      c.perform (separately l) = (.error (.store e), c') ∧
      transaction before c.tables = .ok c'.tables ∧
      (c.fault = none → c.isOpen = false ∧ e = .closed ∨
        c.isOpen = true ∧ transaction l c.tables = .error e)) := by
  unfold separately
  rw [perform_bind, perform_acquire]
  by_cases hopen : c.isOpen = true
  · rw [if_pos hopen]
    dsimp only
    obtain ⟨c', hkept, ⟨hl, htables⟩ | ⟨before, s, after, e, rfl, hl, hrest, he⟩⟩ :=
      perform_statements c l
    · exact ⟨c', hkept, .inl ⟨hl, hopen, htables⟩⟩
    · exact ⟨c', hkept, .inr ⟨before, s :: after, e, rfl, nofun, hl, hrest,
        fun h => .inr ⟨hopen, transaction_eq_error hrest (he h)⟩⟩⟩
  · rw [if_neg hopen]
    exact ⟨c, .refl c, .inr ⟨[], l, .closed, rfl, id, rfl, rfl,
      fun _ => .inl ⟨by simpa using hopen, rfl⟩⟩⟩

theorem perform_begin (c : Connection) :
    (∃ fault, (c.fault = none → fault = none) ∧ c.perform begin =
      (.ok (), { c with saved := some c.tables, fault := fault })) ∨
    ∃ e, c.perform begin = (.error (.store e), c) ∧ c.fault ≠ none := by
  rcases perform_step c fun c => .ok { c with saved := some c.tables } with
    ⟨c', fault, hrun, hfault, hbegin⟩ | ⟨e, hbegin, he⟩
  · cases hrun
    exact .inl ⟨fault, hfault, hbegin⟩
  · exact .inr ⟨e, hbegin, fun h => by cases he h⟩

theorem perform_commit (c : Connection) :
    (∃ fault, (c.fault = none → fault = none) ∧ c.perform commit =
      (.ok (), { c with saved := none, fault := fault })) ∨
    ∃ e, c.perform commit = (.error (.store e), c) ∧ c.fault ≠ none := by
  rcases perform_step c fun c => .ok { c with saved := none } with
    ⟨c', fault, hrun, hfault, hcommit⟩ | ⟨e, hcommit, he⟩
  · cases hrun
    exact .inl ⟨fault, hfault, hcommit⟩
  · exact .inr ⟨e, hcommit, fun h => by cases he h⟩

/-- What is rolled back is what has been begun. -/
theorem perform_rollback (c : Connection) (e : Error) :
    c.perform (do rollback; throw (α := Unit) e) =
      (.error e, { c with tables := c.saved.getD c.tables, saved := none }) := rfl

/-- Between the beginning of a transaction and its end nothing but the tables is touched. -/
theorem perform_committed (c : Connection) (l : List Statement) :
    ∃ c', (c.fault = none → c'.fault = none) ∧ c'.isOpen = c.isOpen ∧
      (c.perform (do statements l; commit) = (.ok (), c') ∧ c'.saved = none ∧
        transaction l c.tables = .ok c'.tables ∨
      ∃ e, c.perform (do statements l; commit) = (.error (.store e), c') ∧ c'.saved = c.saved ∧
        (c.fault = none → transaction l c.tables = .error e)) := by
  rw [perform_bind]
  obtain ⟨c₁, hkept, ⟨hl, htables⟩ | ⟨before, s, after, e, rfl, hl, hrest, he⟩⟩ :=
    perform_statements c l
  · rw [hl]
    dsimp only
    rcases perform_commit c₁ with ⟨fault, hfault, hcommit⟩ | ⟨e, hcommit, hfault⟩
    · exact ⟨{ c₁ with saved := none, fault := fault }, fun h => hfault (hkept.fault h),
        hkept.isOpen, .inl ⟨hcommit, rfl, htables⟩⟩
    · exact ⟨c₁, hkept.fault, hkept.isOpen, .inr ⟨e, hcommit, hkept.saved,
        fun h => absurd (hkept.fault h) hfault⟩⟩
  · rw [hl]
    exact ⟨c₁, hkept.fault, hkept.isOpen, .inr ⟨e, rfl, hkept.saved,
      fun h => transaction_eq_error hrest (he h)⟩⟩

/-- Taken together, statements are all carried out or none of them, wherever the fault comes. -/
theorem perform_atomically {c : Connection} (hidle : c.saved = none) (l : List Statement) :
    ∃ c', Kept c c' ∧
      (c.perform (atomically l) = (.ok (), c') ∧ c.isOpen = true ∧
        transaction l c.tables = .ok c'.tables ∨
      ∃ e, c.perform (atomically l) = (.error (.store e), c') ∧ c'.tables = c.tables ∧
        (c.fault = none → c.isOpen = false ∧ e = .closed ∨
          c.isOpen = true ∧ transaction l c.tables = .error e)) := by
  unfold atomically
  rw [perform_bind, perform_acquire]
  by_cases hopen : c.isOpen = true
  · rw [if_pos hopen]
    dsimp only
    rw [perform_bind]
    rcases perform_begin c with ⟨fault, hfault, hbegin⟩ | ⟨e, hbegin, hfault⟩
    · rw [hbegin]
      dsimp only
      rw [perform_tryCatch]
      obtain ⟨c', hfault', hopen', ⟨hl, hsaved, htables⟩ | ⟨e, hl, hsaved, he⟩⟩ :=
        perform_committed { c with saved := some c.tables, fault := fault } l
      · rw [hl]
        exact ⟨c', ⟨hopen', hsaved.trans hidle.symm, fun h => hfault' (hfault h)⟩,
          .inl ⟨rfl, hopen, htables⟩⟩
      · rw [hl]
        dsimp only
        rw [perform_rollback, hsaved]
        exact ⟨{ c' with tables := c.tables, saved := none },
          ⟨hopen', hidle.symm, fun h => hfault' (hfault h)⟩,
          .inr ⟨e, rfl, rfl, fun h => .inr ⟨hopen, he (hfault h)⟩⟩⟩
    · rw [hbegin]
      exact ⟨c, .refl c, .inr ⟨e, rfl, rfl, fun h => absurd h hfault⟩⟩
  · rw [if_neg hopen]
    exact ⟨c, .refl c, .inr ⟨.closed, rfl, rfl, fun _ => .inl ⟨by simpa using hopen, rfl⟩⟩⟩

end

end Connection
end CharAtlas
