/-! Connection tokens. A token names one client to its daemon: application, process,
user and storage area, joined by `@`. Nothing is escaped, so a token is read from
its right end, where the three numbers stand. -/
namespace Rendezvous

/-- What an application says about itself. -/
structure AppContext where
  applicationName : String
  area : UInt32
  deriving DecidableEq, Repr, Inhabited

/-- Who the client process is. -/
structure Identity where
  pid : UInt32
  uid : UInt32
  deriving DecidableEq, Repr, Inhabited

structure Token where
  text : String
  deriving DecidableEq, Repr, Inhabited

/-- Decimal digits without sign or leading zero. -/
def decimal (n : Nat) : String := String.ofList (Nat.toDigits 10 n)

/-- `name@pid@uid@area`. -/
def Token.build (context : AppContext) (identity : Identity) : Token :=
  ⟨context.applicationName ++ "@" ++ decimal identity.pid.toNat ++ "@" ++
    decimal identity.uid.toNat ++ "@" ++ decimal context.area.toNat⟩

end Rendezvous
