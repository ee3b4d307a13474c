import FeedIngest.Web.Message

/-!
# Bodies

A body is read piece by piece and given up as soon as it proves longer than a limit. No more
bytes than the limit are ever kept.
-/

set_option autoImplicit false

namespace FeedIngest.Web

/-- Why a body was not read to its end. -/
inductive BodyFault where
  | tooLarge (limit : Nat)
  | web (fault : WebFault)
deriving DecidableEq, Repr

def gather (limit : Nat) (read : List UInt8) : List (List UInt8) → Except BodyFault (List UInt8)
  | [] => .ok read
  | piece :: pieces =>
    if limit < read.length + piece.length then .error (.tooLarge limit)
    else gather limit (read ++ piece) pieces

def BodyEnd.close (ending : BodyEnd) (read : List UInt8) : Except BodyFault (List UInt8) :=
  match ending with
  | .complete => .ok read
  | .cut => .error (.web .bodyCut)
  | .unfinished => .error (.web .bodyUnfinished)

def Response.readCapped (limit : Nat) (r : Response) : Except BodyFault (List UInt8) :=
  if r.announced.any (limit < ·) then .error (.tooLarge limit)
  else (gather limit [] r.pieces).bind r.ending.close

end FeedIngest.Web
