import MarketGateway.Text.Quoted

/-!
# Frames

What is sent over a socket. Text frames carry the messages; the others keep the connection going or
end it.
-/

namespace MarketGateway

structure CloseReason where
  code : Nat
  text : String
deriving DecidableEq

namespace CloseReason

/-- The name of a code, with the code itself where a range has one name. -/
def codeName (code : Nat) : String :=
  if code = 1000 then "Normal"
  else if code = 1001 then "Away"
  else if code = 1002 then "Protocol"
  else if code = 1003 then "Unsupported"
  else if code = 1005 then "Status"
  else if code = 1006 then "Abnormal"
  else if code = 1007 then "Invalid"
  else if code = 1008 then "Policy"
  else if code = 1009 then "Size"
  else if code = 1010 then "Extension"
  else if code = 1011 then "Error"
  else if code = 1012 then "Restart"
  else if code = 1013 then "Again"
  else if code = 1015 then "Tls"
  else
    let kind :=
      if code < 1000 then "Bad"
      else if code < 3000 then "Reserved"
      else if code < 4000 then "Iana"
      else if code < 5000 then "Library"
      else "Bad"
    kind ++ "(" ++ toString code ++ ")"

def describe : Option CloseReason → String
  | none => "None"
  | some r =>
    "Some(CloseFrame \x7b code: " ++ codeName r.code ++ ", reason: " ++ Text.quoted r.text ++ " \x7d)"

end CloseReason

inductive Frame where
  | text (content : String)
  | binary (content : ByteArray)
  | ping (content : ByteArray)
  | pong (content : ByteArray)
  | close (reason : Option CloseReason)

end MarketGateway
