import ArbitratedEscrow.Directory
import ArbitratedEscrow.Uuid

/-!
# Players

A player is a person known by an identifier and a name. The player is `mine` if
the local wallet holds the player's keys.
-/

namespace ArbitratedEscrow

structure PlayerId where
  text : String
deriving Repr

instance : Key PlayerId where
  text := PlayerId.text
  text_injective := by
    rintro ⟨_⟩ ⟨_⟩ rfl
    rfl

instance : Inhabited PlayerId := ⟨⟨""⟩⟩

structure Player where
  id : PlayerId
  name : String
  picture : String
  mine : Bool
deriving DecidableEq, Repr

namespace Player

/-- The picture of a player who was given none. -/
def defaultPicture : String := "https://static-cdn.jtvnw.net/emoticons/v1/425618/2.0"

def new (name : String) (mine : Bool) (nonce : Uuid) : Player :=
  ⟨⟨nonce.text⟩, name, defaultPicture, mine⟩

end Player

end ArbitratedEscrow
