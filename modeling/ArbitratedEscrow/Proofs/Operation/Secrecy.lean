import ArbitratedEscrow.Wallet.Rehearsal
import ArbitratedEscrow.Operation.Run

/-!
# What operations find out about secrets

A check measures the passphrase of a new player and hands every other secret on
as it is; the rehearsal wallet looks whether a secret is empty. Two operations
that differ in nothing but secrets which pass for each other in these respects
run in the same way, with that wallet and with any other that can tell alike
secrets apart as little.
-/

namespace ArbitratedEscrow

/-- Both secrets are empty, or neither is. -/
def Secret.Alike (secret other : Secret) : Prop := secret.raw = "" ↔ other.raw = ""

inductive Wallet.Request.Alike : Wallet.Request → Wallet.Request → Prop where
  | plain (command : Wallet.Command) : Alike ⟨command, none⟩ ⟨command, none⟩
  | secret (command : Wallet.Command) {secret other : Secret} (alike : secret.Alike other) :
      Alike ⟨command, some secret⟩ ⟨command, some other⟩

namespace Operation

/--
Two operations differ at most in a secret, which is empty in both or in neither
and, for a new player, long enough for the settings in both or in neither.
-/
inductive SameButSecret (settings : Settings) : Operation → Operation → Prop where
  | same (operation : Operation) : SameButSecret settings operation operation
  | registerPlayer (name : String) {passphrase other : Secret} (alike : passphrase.Alike other)
      (long : settings.passphraseMinLength.toNat ≤ passphrase.length ↔
        settings.passphraseMinLength.toNat ≤ other.length) :
      SameButSecret settings (.registerPlayer name passphrase) (.registerPlayer name other)
  | signContract (id : ContractId) {password other : Secret} (alike : password.Alike other) :
      SameButSecret settings (.signContract id password) (.signContract id other)
  | signPayout (id : ContractId) {credential other : Credential}
      (sort : credential.isToken = other.isToken)
      (alike : credential.secret.Alike other.secret) :
      SameButSecret settings (.signPayout id credential) (.signPayout id other)

inductive SameFinding : Except EscrowError Verdict → Except EscrowError Verdict → Prop where
  | same (found : Except EscrowError Verdict) : SameFinding found found
  | asks {request other : Wallet.Request} (alike : request.Alike other) (commit : Commit) :
      SameFinding (.ok (.asks request commit)) (.ok (.asks other commit))

variable {settings : Settings} {operation other : Operation}

theorem SameFinding.bind {α : Type} (looked : Except EscrowError α)
    {next further : α → Except EscrowError Verdict}
    (findings : ∀ a, SameFinding (next a) (further a)) :
    SameFinding (looked >>= next) (looked >>= further) := by
  cases looked with
  | error fault => exact .same _
  | ok a => exact findings a

theorem sameFinding_askWith {secret other : Secret} (alike : secret.Alike other)
    (command : Wallet.Command) (commit : Commit) :
    SameFinding (askWith secret command commit) (askWith other command commit) :=
  .asks (.secret command alike) commit

theorem checkPassphrase_congr {passphrase other : Secret}
    (long : settings.passphraseMinLength.toNat ≤ passphrase.length ↔
      settings.passphraseMinLength.toNat ≤ other.length) :
    settings.checkPassphrase passphrase = settings.checkPassphrase other := by
  have short : passphrase.length < settings.passphraseMinLength.toNat ↔
      other.length < settings.passphraseMinLength.toNat := by
    simpa only [Nat.not_le] using not_congr long
  simp only [Settings.checkPassphrase, short]

theorem sameFinding_check (same : operation.SameButSecret settings other) (ledger : Ledger) :
    SameFinding (operation.check settings ledger) (other.check settings ledger) := by
  cases same with
  | same => exact .same _
  | registerPlayer name alike long =>
    simp only [check, checkPassphrase_congr long]
    exact SameFinding.bind _ fun _ => sameFinding_askWith alike _ _
  | signContract id alike =>
    refine SameFinding.bind _ fun _ => ?_
    refine SameFinding.bind _ fun contract => ?_
    exact SameFinding.bind _ fun seat => sameFinding_askWith alike _ _
  | @signPayout id credential other sort alike =>
    refine SameFinding.bind _ fun _ => ?_
    refine SameFinding.bind _ fun contract => ?_
    refine SameFinding.bind _ fun seat => ?_
    cases credential with
    | password password =>
      cases other with
      | password => exact sameFinding_askWith alike _ _
      | token => cases sort
    | token token =>
      cases other with
      | password => cases sort
      | token => exact sameFinding_askWith alike _ _

theorem run_sameButSecret {σ : Type} {call : Wallet.Request → σ → Except EscrowError String × σ}
    (blind : ∀ {request other : Wallet.Request}, request.Alike other →
      ∀ wallet, call request wallet = call other wallet)
    (same : operation.SameButSecret settings other) (now : Instant) (wallet : σ) (desk : Desk) :
    operation.run call settings now wallet desk = other.run call settings now wallet desk := by
  have findings := sameFinding_check same desk.ledger
  rw [run, run]
  generalize operation.check settings desk.ledger = found at findings
  generalize other.check settings desk.ledger = foundToo at findings
  cases findings with
  | same => rfl
  | asks alike commit => simp only [blind alike wallet]

end Operation

namespace Wallet.Rehearsal

theorem reply_alike {secret other : Secret} (alike : secret.Alike other) (rejected : List String)
    (command : String) :
    reply rejected command (some secret) = reply rejected command (some other) := by
  have empty : secret.raw.isEmpty = other.raw.isEmpty := by
    rw [Bool.eq_iff_iff, String.isEmpty_iff, String.isEmpty_iff]
    exact alike
  simp only [reply, Option.any_some, empty]

/-- The wallet logs the command alone and tells alike secrets apart nowhere. -/
theorem call_alike {request other : Request} (alike : request.Alike other) (wallet : Rehearsal) :
    call request wallet = call other wallet := by
  cases alike with
  | plain => rfl
  | secret command alike =>
    simp only [call, respond, reply_alike alike]

end Wallet.Rehearsal

end ArbitratedEscrow
