import SupplyPlatform.Database

namespace SupplyPlatform

/-- The claims of a token that has been verified. -/
structure TokenClaims where
  id : String
  subjectID : String
  tenantID : Int
  deriving DecidableEq

/-- A request as the middlewares read it: `bearerToken` is what `BearerExtractMiddleware` has put into
its context, `claims` what `TokenVerifyMiddleware` has. -/
structure HttpRequest where
  path : String
  remoteAddr : String
  bearerToken : Option String
  claims : Option TokenClaims
  deriving DecidableEq

/-- `getClientIP` as every middleware calls it, with no trusted proxies: the remote address up to its
last colon. -/
def getClientIP (r : HttpRequest) : String :=
  match r.remoteAddr.toList.reverse.dropWhile (fun c => c ≠ ':') with
  | [] => r.remoteAddr
  | _ :: rest => String.ofList rest.reverse

/-- `fmtFrac`: the fraction of `v` in units of `10 ^ prec`, without its trailing zeros. -/
def fmtFrac (v prec : Nat) : String :=
  let digits := Nat.toDigits 10 (v % 10 ^ prec)
  let padded := List.replicate (prec - digits.length) '0' ++ digits
  match (padded.reverse.dropWhile (fun c => c = '0')).reverse with
  | [] => ""
  | kept => "." ++ String.ofList kept

/-- `Duration.String` of a duration that is not negative. -/
def durationString (d : Nat) : String :=
  if d = 0 then "0s"
  else if d < 1000 then toString d ++ "ns"
  else if d < 1000000 then toString (d / 1000) ++ fmtFrac d 3 ++ "µs"
  else if d < 1000000000 then toString (d / 1000000) ++ fmtFrac d 6 ++ "ms"
  else
    let seconds := d / 1000000000
    (if 3600 ≤ seconds then toString (seconds / 3600) ++ "h" else "") ++
      (if 60 ≤ seconds then toString (seconds / 60 % 60) ++ "m" else "") ++
      toString (seconds % 60) ++ fmtFrac d 9 ++ "s"

end SupplyPlatform
