/-!
# Why an address cannot be listened at

The system tells the reason by a number, and each number has a wording.
-/

namespace PatronGateway
namespace Net

/-- The number of a reason that the system gives. -/
structure ListenError where
  code : Nat
  deriving DecidableEq, Repr

namespace ListenError

/-- The port needs a privilege. -/
def permissionDenied : ListenError :=
  ⟨13⟩

/-- No machine of this network has the address. -/
def addressNotAvailable : ListenError :=
  ⟨99⟩

/-- The wordings of the reasons. -/
def wordings : List (Nat × String) :=
  [(1, "Operation not permitted"), (13, "Permission denied"), (22, "Invalid argument"),
    (23, "Too many open files in system"), (24, "Too many open files"),
    (97, "Address family not supported by protocol"), (98, "Address already in use"),
    (99, "Cannot assign requested address"), (105, "No buffer space available")]

/-- The wording of a reason, with its number. -/
def message (e : ListenError) : String :=
  let wording := (wordings.lookup e.code).getD ("Unknown error " ++ toString e.code)
  wording ++ " (os error " ++ toString e.code ++ ")"

end ListenError
end Net
end PatronGateway
