import SerialScript.Host
import SerialScript.Transport.Basic

namespace SerialScript

inductive NoStream : Type

namespace Host

def openPort (port : String) (baud : UInt32) (_responseTimeout _openTimeout : Nat)
    (b : Bench Host) : Outcome NoStream × Bench Host :=
  (.fail (.during (.openingDevice port baud) (.reported (b.world.refuseTerminal port).reason)), b)

instance : Transport NoStream Host where
  openPort := openPort
  isOpen s := nomatch s
  close s := nomatch s
  setTimeout _ s := nomatch s
  write _ s := nomatch s
  readUntil _ _ s := nomatch s
  discard s := nomatch s

end Host

end SerialScript
