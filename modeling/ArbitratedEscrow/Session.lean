import ArbitratedEscrow.Archive.Keep
import ArbitratedEscrow.Operation.Run
import ArbitratedEscrow.Wallet.Rehearsal

/-!
# Sessions

A session is a client at work: settings, a desk, a rehearsal wallet, an archive
and a clock that stands still until it is moved. Each step of a session is one
of the client's operations, an edit of the ledger past the client, a look at the
ledger or the archive, or something that happens to the session from outside: a
queued reply of the wallet, a restart, the clock. A step that fails changes
neither ledger nor archive, save what an operation had committed before.
-/

namespace ArbitratedEscrow

/-- Whether the archive outlives being opened again. -/
inductive Medium where
  | memory
  | file
deriving DecidableEq

structure Session where
  settings : Settings
  desk : Desk
  wallet : Wallet.Rehearsal := {}
  archive : Archive := {}
  medium : Medium := .memory
  now : Instant

namespace Session

/-- A session with an empty ledger and archive, if the settings are valid. -/
def start (settings : Settings) (ids : IdSource) (now : Instant) (medium : Medium) :
    Except EscrowError Session := do
  settings.validate
  return { settings, desk := ⟨.empty, ids⟩, medium, now }

inductive Query where
  | everything
  | players
  | contracts
  | payouts
  | selected
  | player (id : PlayerId)
  | playerNamed (name : String)
  | contract (id : ContractId)
  | payout (id : ContractId)

inductive Step where
  | operation (operation : Operation)
  | edit (edit : Ledger.Edit)
  | query (query : Query)
  | view (signable : Signable) (viewer : PlayerId)
  | settings
  | reject (start : String)
  | enqueue (outcome : Except EscrowError String)
  | walletLog
  | keep
  | load
  | forget
  | reopen
  | archivedPlayers
  | archivedContracts
  | archivedPayouts
  | archivedSelection
  | insert (table : String) (cells : List (String × Cell))
  | clear (table : String)
  | setClock (now : Instant)

/-- How a player sees something to sign. -/
inductive View where
  | contract (status : ContractStatus) (signed unsigned : Bool) (other : Option PlayerId)
  | payout (status : PayoutStatus) (signed unsigned : Bool)

inductive Report where
  | answer (answer : Answer)
  | players (players : List Player)
  | contracts (contracts : List Contract)
  | payouts (payouts : List Payout)
  | selected (id : Option PlayerId)
  | everything (ledger : Ledger)
  | view (view : View)
  | settings (settings : Settings)
  | commands (log : List String)
  | count (n : Nat)

def ask (ledger : Ledger) : Query → Report
  | .everything => .everything ledger
  | .players => .players ledger.playerList
  | .contracts => .contracts ledger.contractList
  | .payouts => .payouts ledger.payoutList
  | .selected => .selected ledger.selected
  | .player id => .answer (.ofPlayer? (ledger.player? id))
  | .playerNamed name => .answer (.ofPlayer? (ledger.playerNamed? name))
  | .contract id => .answer (.ofContract? (ledger.contract? id))
  | .payout id => .answer (.ofPayout? (ledger.payout? id))

def look (ledger : Ledger) (signable : Signable) (viewer : PlayerId) : View :=
  let signed := signable.signedBy ledger.lookup viewer
  match signable with
  | .contract c =>
    .contract (c.status ledger.lookup viewer) signed signable.isUnsigned (c.counterparty viewer)
  | .payout p => .payout (p.status ledger.lookup viewer) signed signable.isUnsigned

def withLedger (session : Session) (ledger : Ledger) : Session :=
  { session with desk := { session.desk with ledger } }

def operate (session : Session) (operation : Operation) : Except EscrowError Answer × Session :=
  let (result, wallet, desk) :=
    operation.run Wallet.Rehearsal.call session.settings session.now session.wallet session.desk
  (result, { session with wallet, desk })

/-- Takes one step. -/
def step (session : Session) : Step → Except EscrowError Report × Session
  | .operation operation =>
    let (result, session) := session.operate operation
    (result.map .answer, session)
  | .edit edit =>
    let (result, ledger) := session.desk.ledger.edit edit
    (result.map .answer, session.withLedger ledger)
  | .query query => (.ok (ask session.desk.ledger query), session)
  | .view signable viewer => (.ok (.view (look session.desk.ledger signable viewer)), session)
  | .settings => (.ok (.settings session.settings), session)
  | .reject start =>
    (.ok (.answer .done), { session with wallet := session.wallet.reject start })
  | .enqueue outcome =>
    (.ok (.answer .done), { session with wallet := session.wallet.enqueue outcome })
  | .walletLog => (.ok (.commands session.wallet.log), session)
  | .keep =>
    match session.archive.keep? session.desk.ledger with
    | some archive => (.ok (.answer .done), { session with archive })
    | none => (.error .storage, session)
  | .load =>
    match session.archive.load? session.now with
    | some ledger => (.ok (.answer .done), session.withLedger ledger)
    | none => (.error .storage, session)
  | .forget => (.ok (.answer .done), session.withLedger .empty)
  | .reopen =>
    match session.medium with
    | .memory => (.ok (.answer .done), { session with archive := .empty })
    | .file => (.ok (.answer .done), session)
  | .archivedPlayers => (Archive.orFail (session.archive.playerList?.map .players), session)
  | .archivedContracts =>
    (Archive.orFail ((session.archive.contractList? session.now).map .contracts), session)
  | .archivedPayouts =>
    (Archive.orFail ((session.archive.payoutList? session.now).map .payouts), session)
  | .archivedSelection => (Archive.orFail (session.archive.selected?.map .selected), session)
  | .insert table cells =>
    match session.archive.insert table cells with
    | some archive => (.ok (.answer .done), { session with archive })
    | none => (.error .storage, session)
  | .clear table =>
    match session.archive.clear table with
    | some (count, archive) => (.ok (.count count), { session with archive })
    | none => (.error .storage, session)
  | .setClock now => (.ok (.answer .done), { session with now })

end Session

end ArbitratedEscrow
