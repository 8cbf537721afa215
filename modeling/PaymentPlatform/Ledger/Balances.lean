import Mathlib.Algebra.BigOperators.Group.Finset.Basic
import Mathlib.Algebra.BigOperators.Group.Finset.Piecewise
import PaymentPlatform.Ledger.Steps

/-! account_balances as a projection of the posted journal, conservation for every
book and asset, and the spend limits, over all runs. -/

namespace PaymentPlatform.Ledger

open Framing Serial

variable {E : Engine}
variable {side : Side} {lines : List (Int × LineRow)} {accountId : Bytes} {n : Int}
  {request : PostRequest} {entryHash : Digest} {metadata : E.Jsonb}

variable {account : AccountRow} {id : Bytes} {st st' : Tables E} {parent : TransactionRow E}

theorem sideTotal_cons (side : Side) (select : LineRow → Bool) (e : Int × LineRow)
    (lines : List (Int × LineRow)) : sideTotal side select (e :: lines) =
      (if select e.2 ∧ e.2.side = side then e.2.amountAtoms else 0) +
        sideTotal side select lines := by
  simp [sideTotal]

theorem sideTotal_eq_zero {select : LineRow → Bool} (none : ∀ e ∈ lines, select e.2 = false) :
    sideTotal side select lines = 0 := by
  apply List.sum_eq_zero
  intro w member
  obtain ⟨e, he, rfl⟩ := List.mem_map.mp member
  simp [none e he]

theorem sideTotal_congr {select select' : LineRow → Bool}
    (same : ∀ e ∈ lines, select e.2 = select' e.2) :
    sideTotal side select lines = sideTotal side select' lines := by
  unfold sideTotal
  congr 1
  apply List.map_congr_left
  intro e member
  rw [same e member]

theorem sideTotal_by_account (side : Side) (select : Bytes → Bool) (lines : List (Int × LineRow)) :
    ((lineAccounts lines).map fun a =>
      if select a then sideTotal side (fun l => l.accountId = a) lines else 0).sum =
      sideTotal side (fun l => select l.accountId) lines := by
  have general : ∀ (accounts : List Bytes), accounts.Nodup →
      ∀ part : List (Int × LineRow), (∀ e ∈ part, e.2.accountId ∈ accounts) →
      (accounts.map fun a =>
        if select a then sideTotal side (fun l => l.accountId = a) part else 0).sum =
        sideTotal side (fun l => select l.accountId) part := by
    intro accounts distinct part
    induction part with
    | nil =>
      intro _
      simp [sideTotal]
    | cons e part ih =>
      intro covered
      have split : ∀ a, (if select a then sideTotal side (fun l => l.accountId = a) (e :: part)
          else 0) =
          (if e.2.accountId = a then
            (if select e.2.accountId ∧ e.2.side = side then e.2.amountAtoms else 0) else 0) +
          (if select a then sideTotal side (fun l => l.accountId = a) part else 0) := by
        intro a
        by_cases same : e.2.accountId = a
        · subst same
          by_cases chosen : select e.2.accountId = true <;> simp [sideTotal_cons, chosen]
        · by_cases chosen : select a = true <;> simp [sideTotal_cons, chosen, same]
      have once : (accounts.map fun a => if e.2.accountId = a then
          (if select e.2.accountId ∧ e.2.side = side then e.2.amountAtoms else 0) else 0).sum =
          if select e.2.accountId ∧ e.2.side = side then e.2.amountAtoms else 0 := by
        rw [← List.sum_toFinset _ distinct, Finset.sum_ite_eq]
        simp [covered e (by simp)]
      simp only [split]
      rw [List.sum_map_add, once, ih (fun e' member => covered e' (by simp [member])),
        sideTotal_cons]
  refine general _ (List.nodup_dedup _) lines ?_
  intro e member
  exact List.mem_dedup.mpr (List.mem_map.mpr ⟨e, member, rfl⟩)

theorem sideTotal_linesOf (st : Tables E) (id : Bytes) (side : Side) (select : LineRow → Bool) :
    sideTotal side select (linesOf st id) = st.lines.total fun key line =>
        if key.1 = id ∧ select line ∧ line.side = side then line.amountAtoms else 0 := by
  unfold sideTotal linesOf AList.total
  generalize st.lines.rows = rows
  induction rows with
  | nil => rfl
  | cons e rows ih =>
    by_cases own : e.1.1 = id
    · simp [own] at ih ⊢
      exact ih
    · simp [own] at ih ⊢
      exact ih

section

variable (stored : Option BalanceRow) (debit credit current sequenceNo : Int)

theorem addBalance_debit : (addBalance stored debit credit current sequenceNo).debitAtoms =
    stored.elim 0 (·.debitAtoms) + debit := by
  cases stored <;> simp [addBalance]

theorem addBalance_credit : (addBalance stored debit credit current sequenceNo).creditAtoms =
    stored.elim 0 (·.creditAtoms) + credit := by
  cases stored <;> simp [addBalance]

theorem addBalance_current :
    (addBalance stored debit credit current sequenceNo).currentBalanceAtoms =
      stored.elim 0 (·.currentBalanceAtoms) + current := by
  cases stored <;> simp [addBalance]

end

theorem foldlM_lookup {sequenceNo : Int} (accountIds : List Bytes) (distinct : accountIds.Nodup)
    (applied : accountIds.foldlM (applyBalance lines sequenceNo) st = .ok st') (accountId : Bytes) :
    (accountId ∉ accountIds ∧
      st'.accountBalances.lookup accountId = st.accountBalances.lookup accountId) ∨
    (accountId ∈ accountIds ∧ st.accounts.lookup accountId = none) ∨
    ∃ account balance, accountId ∈ accountIds ∧ st.accounts.lookup accountId = some account ∧
      st'.accountBalances.lookup accountId = some balance ∧ balance.storable ∧
      balance = newBalance lines sequenceNo accountId account
        (st.accountBalances.lookup accountId) := by
  induction accountIds generalizing st with
  | nil =>
    cases applied
    exact .inl ⟨by simp, rfl⟩
  | cons first rest ih =>
    simp only [List.foldlM_cons, bind_ok] at applied
    obtain ⟨mid, head, others⟩ := applied
    obtain ⟨fresh, distinct⟩ := List.nodup_cons.mp distinct
    have accounts : mid.accounts = st.accounts := by rw [applyBalance_frame head]
    have later := ih distinct others
    by_cases same : accountId = first
    · subst same
      have kept : st'.accountBalances.lookup accountId = mid.accountBalances.lookup accountId := by
        rcases later with ⟨_, kept⟩ | ⟨inside, _⟩ | ⟨_, _, inside, _⟩
        · exact kept
        · exact absurd inside fresh
        · exact absurd inside fresh
      rcases applyBalance_cases head with ⟨absent, _⟩ | ⟨account, effect⟩
      · exact .inr (.inl ⟨by simp, absent⟩)
      · have row := congrArg (fun s : Tables E => s.accountBalances.lookup accountId) effect.row
        simp only [AList.lookup_insert] at row
        exact .inr (.inr ⟨account, _, by simp, effect.found, kept.trans row,
          effect.storable _ row, rfl⟩)
    · have before : mid.accountBalances.lookup accountId = st.accountBalances.lookup accountId := by
        rcases applyBalance_cases head with ⟨_, rfl⟩ | ⟨account, effect⟩
        · rfl
        · rw [effect.row]
          exact AList.lookup_insert_ne same
      rw [before, accounts] at later
      rcases later with ⟨outside, kept⟩ | ⟨inside, absent⟩ | ⟨account, balance, inside, found, row⟩
      · exact .inl ⟨by simp [same, outside], kept⟩
      · exact .inr (.inl ⟨by simp [inside], absent⟩)
      · exact .inr (.inr ⟨account, balance, by simp [inside], found, row⟩)

theorem foldlM_total {sequenceNo : Int} (column : BalanceRow → Int) (delta : Bytes → Int)
    (adds : ∀ accountId account stored, column (newBalance lines sequenceNo accountId account stored) =
      stored.elim 0 column + delta accountId) (select : Bytes → Bool) (accountIds : List Bytes)
    (applied : accountIds.foldlM (applyBalance lines sequenceNo) st = .ok st')
    (owned : ∀ a ∈ accountIds, (st.accounts.lookup a).isSome) :
    st'.accountBalances.total (fun id row => if select id then column row else 0) =
      st.accountBalances.total (fun id row => if select id then column row else 0) +
        (accountIds.map fun a => if select a then delta a else 0).sum := by
  induction accountIds generalizing st with
  | nil =>
    cases applied
    simp
  | cons first rest ih =>
    simp only [List.foldlM_cons, bind_ok] at applied
    obtain ⟨mid, head, others⟩ := applied
    have accounts : mid.accounts = st.accounts := by rw [applyBalance_frame head]
    have later := ih others (fun a member => accounts ▸ owned a (by simp [member]))
    have now : mid.accountBalances.total (fun id row => if select id then column row else 0) =
        st.accountBalances.total (fun id row => if select id then column row else 0) +
          if select first then delta first else 0 := by
      rcases applyBalance_cases head with ⟨absent, _⟩ | ⟨account, effect⟩
      · have present := owned first (by simp)
        rw [absent] at present
        contradiction
      · rw [effect.row]
        refine AList.total_insert_add _ _ ?_
        rw [adds]
        by_cases chosen : select first = true <;>
          cases st.accountBalances.lookup first <;> simp [chosen]
    rw [later, now, List.map_cons, List.sum_cons, add_assoc]

def inPool (st : Tables E) (bookId assetId accountId : Bytes) : Bool :=
  match st.accounts.lookup accountId with
  | some account => account.bookId = bookId ∧ account.assetId = assetId
  | none => false

theorem inPool_congr
    (same : st'.accounts.lookup accountId = st.accounts.lookup accountId) (bookId assetId : Bytes) :
    inPool st' bookId assetId accountId = inPool st bookId assetId accountId := by
  simp only [inPool, same]

def poolTotal (st : Tables E) (bookId assetId : Bytes) (column : BalanceRow → Int) : Int :=
  st.accountBalances.total fun id row => if inPool st bookId assetId id then column row else 0

structure Projects (st : Tables E) (accountId : Bytes) (account : AccountRow)
    (balance : BalanceRow) : Prop where
  debit : balance.debitAtoms = postedTotal st .debit accountId
  credit : balance.creditAtoms = postedTotal st .credit accountId
  current : balance.currentBalanceAtoms =
    oriented account.normalSide (postedTotal st .debit accountId) (postedTotal st .credit accountId)
  storable : balance.storable
  limited : account.enforceSpendLimit = true →
    -account.creditLimitAtoms ≤ balance.currentBalanceAtoms

structure Projected (st : Tables E) : Prop where
  owned : ∀ id balance, st.accountBalances.lookup id = some balance →
    ∃ account, st.accounts.lookup id = some account
  folded : ∀ id account, st.accounts.lookup id = some account →
    ∃ balance, st.accountBalances.lookup id = some balance ∧ Projects st id account balance
  lines : ∀ id n line, st.lines.lookup (id, n) = some line →
    ∃ row account, st.transactions.lookup id = some row ∧
      st.accounts.lookup line.accountId = some account ∧ account.assetId = line.assetId ∧
      account.bookId = row.bookId
  pools : ∀ bookId assetId,
    poolTotal st bookId assetId (·.debitAtoms) = poolTotal st bookId assetId (·.creditAtoms)

theorem mem_linesOf {line : LineRow} :
    (n, line) ∈ linesOf st id ↔ st.lines.lookup (id, n) = some line := by
  simp only [linesOf, List.mem_map, List.mem_filter, decide_eq_true_eq, Prod.exists, Prod.mk.injEq]
  constructor
  · rintro ⟨id', n', line', ⟨member, rfl⟩, rfl, rfl⟩
    exact (AList.mem_rows _ _ _).mp member
  · intro found
    exact ⟨id, n, line, ⟨(AList.mem_rows _ _ _).mpr found, rfl⟩, rfl, rfl⟩

theorem Finalized.postedTotal {row : TransactionRow E}
    {head : BookRow} (effect : Finalized st st' id row head) (side : Side) (accountId : Bytes) :
    postedTotal st' side accountId = postedTotal st side accountId +
      sideTotal side (fun l => l.accountId = accountId) (linesOf st id) := by
  have posted : ∀ id', isPosted st' id' = if id' = id then true else isPosted st id' := by
    intro id'
    unfold isPosted
    rw [effect.transactions, AList.lookup_insert_if]
    by_cases same : id' = id <;> simp [same]
  have before : isPosted st id = false := by
    simp [isPosted, effect.draft, effect.status]
  rw [sideTotal_linesOf, Ledger.postedTotal, Ledger.postedTotal, effect.lines, ← AList.total_add]
  apply AList.total_congr
  rintro ⟨id', n⟩ line _
  rw [posted]
  by_cases same : id' = id
  · subst same
    by_cases own : line.accountId = accountId <;> by_cases hs : line.side = side <;>
      simp [before, own, hs]
  · simp [same]

theorem oriented_add (side : Side) (d c d' c' : Int) :
    oriented side (d + d') (c + c') = oriented side d c + oriented side d' c' := by
  cases side <;> simp only [oriented] <;> omega

theorem checkDraft_balanced {row : TransactionRow E}
    (checked : checkDraft st id row = .ok ()) : balancedAssets (linesOf st id) := by
  simp only [checkDraft, steps_ok] at checked
  obtain ⟨_, _, _, balanced, _⟩ := checked
  exact balanced

theorem balancedAssets_all (balanced : balancedAssets lines) (assetId : Bytes) :
    sideTotal .debit (fun l => l.assetId = assetId) lines =
      sideTotal .credit (fun l => l.assetId = assetId) lines := by
  by_cases present : assetId ∈ lines.map fun e => e.2.assetId
  · exact balanced assetId present
  · have none : ∀ e ∈ lines, decide (e.2.assetId = assetId) = false := by
      intro e member
      apply decide_eq_false
      rintro rfl
      exact present (List.mem_map.mpr ⟨e, member, rfl⟩)
    rw [sideTotal_eq_zero none, sideTotal_eq_zero none]

section Finalization

variable {st st' : Tables E} {id : Bytes} {row : TransactionRow E} {head : BookRow}

section

variable (effect : Finalized st st' id row head)
include effect

theorem Finalized.lineAccount (inv : Projected st) :
    ∀ e ∈ linesOf st id, ∃ account, st.accounts.lookup e.2.accountId = some account ∧
      account.assetId = e.2.assetId ∧ account.bookId = row.bookId := by
  rintro ⟨n, line⟩ member
  obtain ⟨row', account, found, owner, asset, book⟩ := inv.lines id n line (mem_linesOf.mp member)
  rw [effect.draft] at found
  cases found
  exact ⟨account, owner, asset, book⟩

theorem Finalized.poolDelta (inv : Projected st) (side : Side) (bookId assetId : Bytes) :
    ((lineAccounts (linesOf st id)).map fun a => if inPool st bookId assetId a then
      sideTotal side (fun l => l.accountId = a) (linesOf st id) else 0).sum =
      if row.bookId = bookId then sideTotal side (fun l => l.assetId = assetId) (linesOf st id)
      else 0 := by
  rw [sideTotal_by_account]
  have member : ∀ e ∈ linesOf st id, inPool st bookId assetId e.2.accountId =
      decide (row.bookId = bookId ∧ e.2.assetId = assetId) := by
    intro e inside
    obtain ⟨account, owner, asset, book⟩ := effect.lineAccount inv e inside
    simp only [inPool, owner, asset, book]
  split
  · rename_i same
    apply sideTotal_congr
    intro e inside
    rw [member e inside]
    simp [same]
  · rename_i other
    apply sideTotal_eq_zero
    intro e inside
    rw [member e inside]
    simp [other]

theorem Finalized.pools (inv : Projected st) (bookId assetId : Bytes) :
    poolTotal st' bookId assetId (·.debitAtoms) = poolTotal st' bookId assetId (·.creditAtoms) := by
  have same : ∀ a, inPool st' bookId assetId a = inPool st bookId assetId a :=
    fun a => inPool_congr (by rw [effect.accounts]) bookId assetId
  have owned : ∀ a ∈ lineAccounts (linesOf st id), (st'.accounts.lookup a).isSome := by
    intro a member
    obtain ⟨e, inside, rfl⟩ := List.mem_map.mp (List.mem_dedup.mp member)
    obtain ⟨account, owner, _⟩ := effect.lineAccount inv e inside
    simp [effect.accounts, owner]
  have debit := foldlM_total (·.debitAtoms)
    (fun a => sideTotal .debit (fun l => l.accountId = a) (linesOf st id))
    (fun _ _ stored => addBalance_debit stored ..)
    (inPool st bookId assetId) _ effect.balances owned
  have credit := foldlM_total (·.creditAtoms)
    (fun a => sideTotal .credit (fun l => l.accountId = a) (linesOf st id))
    (fun _ _ stored => addBalance_credit stored ..)
    (inPool st bookId assetId) _ effect.balances owned
  rw [effect.poolDelta inv] at debit credit
  have before := inv.pools bookId assetId
  have balanced := balancedAssets_all (checkDraft_balanced effect.checked) assetId
  simp only [poolTotal, same] at before ⊢
  rw [debit, credit, before, balanced]

theorem Finalized.projected (inv : Projected st) : Projected st' := by
  have rows := foldlM_lookup _ (List.nodup_dedup _) effect.balances
  simp only [effect.accounts] at rows
  refine ⟨?_, ?_, ?_, effect.pools inv⟩
  · intro a balance present
    rw [effect.accounts]
    rcases rows a with ⟨_, kept⟩ | ⟨inside, absent⟩ | ⟨account, _, _, found, _⟩
    · exact inv.owned a balance (kept ▸ present)
    · obtain ⟨e, member, rfl⟩ := List.mem_map.mp (List.mem_dedup.mp inside)
      obtain ⟨account, owner, _⟩ := effect.lineAccount inv e member
      exact ⟨account, owner⟩
    · exact ⟨account, found⟩
  · intro a account found
    rw [effect.accounts] at found
    obtain ⟨old, present, projects⟩ := inv.folded a account found
    have debit := effect.postedTotal .debit a
    have credit := effect.postedTotal .credit a
    rcases rows a with ⟨outside, kept⟩ | ⟨_, absent⟩ | ⟨account', new, inside, found', row', fits, sum⟩
    · have none : ∀ e ∈ linesOf st id, decide (e.2.accountId = a) = false := by
        intro e member
        apply decide_eq_false
        rintro rfl
        exact outside (List.mem_dedup.mpr (List.mem_map.mpr ⟨e, member, rfl⟩))
      rw [sideTotal_eq_zero none, add_zero] at debit credit
      refine ⟨old, kept.trans present, ?_⟩
      exact ⟨debit ▸ projects.debit, credit ▸ projects.credit, by
        rw [debit, credit]
        exact projects.current, projects.storable, projects.limited⟩
    · rw [found] at absent
      cases absent
    · rw [found] at found'
      cases found'
      rw [present] at sum
      refine ⟨new, row', ?_, ?_, ?_, fits, ?_⟩
      · rw [sum, newBalance, addBalance_debit, debit, ← projects.debit]
        rfl
      · rw [sum, newBalance, addBalance_credit, credit, ← projects.credit]
        rfl
      · rw [sum, newBalance, addBalance_current, debit, credit, oriented_add, ← projects.current]
        rfl
      · exact effect.limits a inside account (by rw [effect.accounts, found]; rfl) new row'
  · intro tid n line found
    rw [effect.lines] at found
    obtain ⟨parent, account, hp, ha, asset, book⟩ := inv.lines tid n line found
    rw [effect.transactions, effect.accounts, AList.lookup_insert_if]
    by_cases same : tid = id
    · rw [same, effect.draft] at hp
      cases hp
      exact ⟨_, account, if_pos same, ha, asset, book⟩
    · exact ⟨parent, account, by rw [if_neg same, hp], ha, asset, book⟩

end

end Finalization

theorem LineInserted.postedTotal {line : Line}
    (effect : LineInserted st st' id n line parent account side) (s : Side) (a : Bytes) :
    postedTotal st' s a = postedTotal st s a := by
  rw [effect.row]
  exact AList.total_insert_weightless _ _ _ _ (by simp [isPosted, effect.draft, effect.status])
    (fun line' _ => by simp [isPosted, effect.draft, effect.status])

theorem LineInserted.projected {line : Line} (inv : Projected st)
    (effect : LineInserted st st' id n line parent account side) : Projected st' := by
  have totals := effect.postedTotal
  have transactions : st'.transactions = st.transactions := by rw [effect.row]
  have accounts : st'.accounts = st.accounts := by rw [effect.row]
  have balances : st'.accountBalances = st.accountBalances := by rw [effect.row]
  refine ⟨?_, ?_, ?_, ?_⟩
  · simpa only [balances, accounts] using inv.owned
  · intro a row found
    rw [accounts] at found
    obtain ⟨balance, present, projects⟩ := inv.folded a row found
    refine ⟨balance, by rw [balances, present], ?_⟩
    exact ⟨by rw [totals, projects.debit], by rw [totals, projects.credit],
      by rw [totals, totals, projects.current], projects.storable, projects.limited⟩
  · intro id' n' row found
    rw [effect.row, AList.lookup_insert_if] at found
    rw [transactions, accounts]
    split at found
    · rename_i same
      cases same
      cases found
      exact ⟨parent, account, effect.draft, effect.found, effect.asset, effect.book⟩
    · exact inv.lines id' n' row found
  · intro bookId assetId
    have same : ∀ a, inPool st' bookId assetId a = inPool st bookId assetId a :=
      fun a => inPool_congr (by rw [accounts]) bookId assetId
    simpa only [poolTotal, same, balances] using inv.pools bookId assetId

section Drafts

variable {st : Tables E} {id : Bytes} {row : TransactionRow E}

theorem isPosted_draft (fresh : st.transactions.lookup id = none) (draft : row.status = .draft)
    (id' : Bytes) :
    isPosted { st with transactions := st.transactions.insert id row } id' = isPosted st id' := by
  simp only [isPosted, AList.lookup_insert_if]
  by_cases same : id' = id
  · subst same
    simp [fresh, draft]
  · simp [same]

theorem Projected.draft (inv : Projected st) (fresh : st.transactions.lookup id = none)
    (draft : row.status = .draft) :
    Projected { st with transactions := st.transactions.insert id row } := by
  have posted := isPosted_draft fresh draft
  refine ⟨inv.owned, ?_, ?_, inv.pools⟩
  · intro a account found
    obtain ⟨balance, present, projects⟩ := inv.folded a account found
    refine ⟨balance, present, ?_⟩
    refine ⟨?_, ?_, ?_, projects.storable, projects.limited⟩
    · simpa only [postedTotal, posted] using projects.debit
    · simpa only [postedTotal, posted] using projects.credit
    · simpa only [postedTotal, posted] using projects.current
  · intro id' n line found
    obtain ⟨parent, account, present, owner, asset, book⟩ := inv.lines id' n line found
    have other : id' ≠ id := by
      rintro rfl
      rw [fresh] at present
      cases present
    exact ⟨parent, account, by rw [AList.lookup_insert_ne other, present], owner, asset, book⟩

end Drafts

theorem Drafted.projected {head : BookRow}
    (drafted : Drafted st st' request head entryHash metadata) (inv : Projected st) :
    Projected st' :=
  insertLines_preserves Projected
    (fun _ _ _ _ _ _ _ holds effect => LineInserted.projected holds effect) _
    (inv.draft drafted.fresh rfl) drafted.inserted

theorem postedTotal_unused (inv : Projected st)
    (absent : st.accounts.lookup accountId = none) (side : Side) :
    postedTotal st side accountId = 0 := by
  have zero : postedTotal st side accountId = st.lines.total fun _ _ => (0 : Int) := by
    apply AList.total_congr
    rintro ⟨id, n⟩ line found
    obtain ⟨_, account, _, owner, _⟩ := inv.lines id n line found
    have other : line.accountId ≠ accountId := by
      rintro rfl
      rw [absent] at owner
      cases owner
    simp [other]
  rw [zero, AList.total_zero]

theorem newAccount_projected {row : AccountRow} (inv : Projected st)
    (absent : st.accounts.lookup accountId = none) (limit : 0 ≤ row.creditLimitAtoms) :
    Projected (openBalance accountId { st with accounts := st.accounts.insert accountId row }) := by
  have fresh : st.accountBalances.lookup accountId = none := by
    cases present : st.accountBalances.lookup accountId with
    | none => rfl
    | some balance =>
      obtain ⟨account, found⟩ := inv.owned accountId balance present
      rw [absent] at found
      cases found
  have opened : openBalance accountId { st with accounts := st.accounts.insert accountId row } =
      { st with
        accounts := st.accounts.insert accountId row
        accountBalances := st.accountBalances.insert accountId ⟨0, 0, 0, 0⟩ } := by
    simp [openBalance, fresh]
  rw [opened]
  refine ⟨?_, ?_, ?_, ?_⟩
  · intro id balance present
    simp only [AList.lookup_insert_if] at present ⊢
    split at present
    · rename_i same
      exact ⟨row, if_pos same⟩
    · rename_i other
      rw [if_neg other]
      exact inv.owned id balance present
  · intro id account found
    simp only [AList.lookup_insert_if] at found ⊢
    split at found
    · rename_i same
      subst same
      cases found
      have zero := postedTotal_unused inv absent
      refine ⟨_, if_pos rfl, ?_, ?_, ?_, by decide, fun _ => by simpa using limit⟩
      · exact (zero .debit).symm
      · exact (zero .credit).symm
      · change 0 = oriented _ (postedTotal st .debit id) (postedTotal st .credit id)
        rw [zero, zero]
        cases row.normalSide <;> rfl
    · rename_i other
      rw [if_neg other]
      obtain ⟨balance, present, projects⟩ := inv.folded id account found
      exact ⟨balance, present, projects.debit, projects.credit, projects.current,
        projects.storable, projects.limited⟩
  · intro id n line found
    obtain ⟨parent, account, hp, owner, asset, book⟩ := inv.lines id n line found
    have other : line.accountId ≠ accountId := by
      rintro same
      rw [same, absent] at owner
      cases owner
    exact ⟨parent, account, hp, by rw [AList.lookup_insert_ne other, owner], asset, book⟩
  · intro bookId assetId
    have column : ∀ c : BalanceRow → Int, c ⟨0, 0, 0, 0⟩ = 0 →
        poolTotal { st with
          accounts := st.accounts.insert accountId row
          accountBalances := st.accountBalances.insert accountId ⟨0, 0, 0, 0⟩ } bookId assetId c =
          poolTotal st bookId assetId c := by
      intro c zero
      simp only [poolTotal]
      rw [AList.total_insert_fresh _ fresh]
      simp only [zero, ite_self, zero_add]
      apply AList.total_congr
      intro id balance present
      have other : id ≠ accountId := by
        rintro rfl
        rw [fresh] at present
        cases present
      rw [inPool_congr (AList.lookup_insert_ne other)]
    rw [column _ rfl, column _ rfl]
    exact inv.pools bookId assetId

theorem step_projected (st : Tables E) (command : Command) (inv : Projected st) :
    Projected (step st command) := by
  refine step_preserves Projected ?_ (fun _ _ _ _ _ _ inv drafted => drafted.projected inv)
    (fun _ _ _ _ _ inv effect => effect.projected inv) st command inv
  intro st st' account inv committed
  rcases createAccount_cases committed with ⟨stored, found, rfl⟩ | ⟨absent, row, limit, rfl⟩
  · obtain ⟨balance, present, _⟩ := inv.folded _ stored found
    simpa [openBalance, present] using inv
  · exact newAccount_projected inv absent limit

/-- No accounts and no journal yet; books and assets may be registered. -/
structure Unused (st : Tables E) : Prop where
  accounts : st.accounts = ∅
  accountBalances : st.accountBalances = ∅
  transactions : st.transactions = ∅
  lines : st.lines = ∅

theorem Unused.projected (unused : Unused st) : Projected st := by
  refine ⟨?_, ?_, ?_, ?_⟩
  · intro id balance present
    rw [unused.accountBalances] at present
    cases present
  · intro id account found
    rw [unused.accounts] at found
    cases found
  · intro id n line found
    rw [unused.lines] at found
    cases found
  · intro bookId assetId
    simp only [poolTotal, unused.accountBalances, AList.total_empty]

/-- The calls of the service, and the INSERTs of drafts and lines by themselves, with
values that no request has been validated for. -/
inductive Statement where
  | call (command : Command)
  | insertDraft (request : PostRequest) (sequenceNo : Int) (prevHash entryHash : Digest)
  | insertLine (transactionId : Bytes) (lineNo : Int) (line : Line)

def execute (st : Tables E) : Statement → Tables E
  | .call command => step st command
  | .insertDraft request sequenceNo prevHash entryHash =>
    commit (fun st => do
      let stored ← insertDraft request sequenceNo prevHash entryHash st
      return (stored.getD st, ())) st
  | .insertLine transactionId lineNo line =>
    commit (fun st => do
      let st ← insertLine transactionId lineNo line st
      return (st, ())) st

theorem execute_projected (st : Tables E) (statement : Statement) (inv : Projected st) :
    Projected (execute st statement) := by
  cases statement with
  | call command => exact step_projected st command inv
  | insertDraft =>
    rw [execute]
    refine commit_preserves _ Projected inv fun st' _ committed => ?_
    simp only [steps_ok] at committed
    obtain ⟨stored, inserted, rfl, _⟩ := committed
    rcases insertDraft_cases inserted with ⟨rfl, _⟩ | ⟨_, _, fresh, _, _, _, rfl⟩
    · exact inv
    · exact inv.draft fresh rfl
  | insertLine =>
    rw [execute]
    refine commit_preserves _ Projected inv fun st' _ committed => ?_
    simp only [steps_ok] at committed
    obtain ⟨_, inserted, rfl, _⟩ := committed
    obtain ⟨_, _, _, effect⟩ := insertLine_ok inserted
    exact LineInserted.projected inv effect

/-- After any run of account creations, postings, and finalizations of drafts with any
lines, the balances are the fold of the journal, every book balances in every asset, and
no spend limit is exceeded. -/
theorem balances_project_journal (st : Tables E) (unused : Unused st)
    (statements : List Statement) :
    (∀ id account, (run execute st statements).accounts.lookup id = some account →
      ∃ balance, (run execute st statements).accountBalances.lookup id = some balance ∧
        balance.debitAtoms = postedTotal (run execute st statements) .debit id ∧
        balance.creditAtoms = postedTotal (run execute st statements) .credit id ∧
        foldBalance (run execute st statements) id = .ok balance.currentBalanceAtoms ∧
        (account.enforceSpendLimit = true →
          -account.creditLimitAtoms ≤ balance.currentBalanceAtoms)) ∧
    (∀ bookId assetId,
      poolTotal (run execute st statements) bookId assetId (·.debitAtoms) =
        poolTotal (run execute st statements) bookId assetId (·.creditAtoms)) := by
  have inv := run_preserves execute Projected execute_projected statements unused.projected
  refine ⟨?_, inv.pools⟩
  intro id account found
  obtain ⟨balance, present, projects⟩ := inv.folded id account found
  refine ⟨balance, present, projects.debit, projects.credit, ?_, projects.limited⟩
  simp only [foldBalance, steps_ok]
  refine ⟨account, found, (), ?_, projects.current.symm⟩
  rw [← projects.current]
  exact projects.storable.2.2

/-- An entry with two credits of one account. -/
def sampleSplit : PostRequest :=
  { samplePosting "t1" 5 [] with
    lines := [⟨ascii "cash", ascii "KZT", Side.debit.text, 5, []⟩,
      ⟨ascii "alice", ascii "KZT", Side.credit.text, 2, []⟩,
      ⟨ascii "alice", ascii "KZT", Side.credit.text, 3, []⟩]
    metadata := ascii "\x7b\x7d" }

/-- The draft of `sampleSplit` is stored line by line and finalized; a draft without a
credit is stored and its finalization fails. -/
def sampleStatements : List Statement :=
  let genesis := genesisHash sampleEngine (ascii "book")
  let hash := (hashEntry sampleEngine genesis 1 sampleSplit).toOption.getD zeroDigest
  [.call (.createAccount (sampleAccount "cash" .debit false)),
    .call (.createAccount (sampleAccount "alice" .credit true)),
    .insertDraft sampleSplit 1 genesis hash] ++
  sampleSplit.lines.mapIdx (fun i line => .insertLine (ascii "t1") (i + 1) line) ++
  [.call (.finalize (ascii "t1")),
    .insertDraft (samplePosting "t2" 9 []) 2 hash zeroDigest,
    .insertLine (ascii "t2") 1 ⟨ascii "cash", ascii "KZT", Side.debit.text, 9, []⟩,
    .call (.finalize (ascii "t2")),
    .call (.post (samplePosting "t3" 7 (ascii "top up")) false)]

theorem sample_balances_project_journal :
    Unused sampleTables ∧
    isPosted (run execute sampleTables sampleStatements) (ascii "t1") = true ∧
    isPosted (run execute sampleTables sampleStatements) (ascii "t2") = false ∧
    (linesOf (run execute sampleTables sampleStatements) (ascii "t2")).length = 1 ∧
    ((run execute sampleTables sampleStatements).accountBalances.lookup (ascii "alice")).map
      (·.currentBalanceAtoms) = some 12 ∧
    foldBalance (run execute sampleTables sampleStatements) (ascii "alice") = .ok 12 ∧
    poolTotal (run execute sampleTables sampleStatements) (ascii "book") (ascii "KZT")
        (·.debitAtoms) =
      poolTotal (run execute sampleTables sampleStatements) (ascii "book") (ascii "KZT")
        (·.creditAtoms) := by
  have unused : Unused sampleTables := ⟨rfl, rfl, rfl, rfl⟩
  have general := balances_project_journal sampleTables unused sampleStatements
  have owner : ((run execute sampleTables sampleStatements).accounts.lookup
      (ascii "alice")).isSome := by decide +kernel
  have value : ((run execute sampleTables sampleStatements).accountBalances.lookup
      (ascii "alice")).map (·.currentBalanceAtoms) = some 12 := by decide +kernel
  refine ⟨unused, by decide +kernel, by decide +kernel, by decide +kernel, value, ?_,
    general.2 _ _⟩
  obtain ⟨account, found⟩ := Option.isSome_iff_exists.mp owner
  obtain ⟨balance, present, _, _, fold, _⟩ := general.1 _ account found
  rw [present] at value
  rw [fold]
  exact congrArg Except.ok (Option.some.inj value)

end PaymentPlatform.Ledger
