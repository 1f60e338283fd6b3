namespace SecureGateway.Credentials

def block (label : String) (lines : List String) : String :=
  "-----BEGIN " ++ label ++ "-----\n" ++ String.join (lines.map (· ++ "\n")) ++
    "-----END " ++ label ++ "-----\n"

def authority : String := block "CERTIFICATE" [
  "MIIBWzCCAQGgAwIBAgIBATAKBggqhkjOPQQDAjAUMRIwEAYDVQQDDAlvcmFjbGUg",
  "Y2EwIBcNMDAwMTAxMDAwMDAwWhgPMjE5OTEyMzEwMDAwMDBaMBQxEjAQBgNVBAMM",
  "CW9yYWNsZSBjYTBZMBMGByqGSM49AgEGCCqGSM49AwEHA0IABDM/De4AVkE1ck89",
  "321hcu7cXMfIJUOwvUMnswXqjQWdBBsDPRQc4NJ0YaAuAhFTQJE1+w9xpT+GgtQc",
  "5QlVa3ujQjBAMA8GA1UdEwEB/wQFMAMBAf8wDgYDVR0PAQH/BAQDAgEGMB0GA1Ud",
  "DgQWBBSrTN9VBrf1fsmJsKtAEJnfcgNMFzAKBggqhkjOPQQDAgNIADBFAiB2865i",
  "RCGAlD/ITDzUp2tNL8CtXAsgzOXKshoNOoS5GQIhAOPxMdoEJ/8+3S97OVNdJwcQ",
  "fqPOPAcrtLx8SbQvJNN5"]

def strangeAuthority : String := block "CERTIFICATE" [
  "MIIBczCCARqgAwIBAgIUaL02c+UaZnBIsL7SrdHe3Tv69c4wCgYIKoZIzj0EAwIw",
  "HzEdMBsGA1UEAwwUdGxzZ2F0ZSB1bnRydXN0ZWQgY2EwIBcNMjYxMTE5MjEyNTU3",
  "WhgPMjEyNjEwMjYyMTI1NTdaMB8xHTAbBgNVBAMMFHRsc2dhdGUgdW50cnVzdGVk",
  "IGNhMFkwEwYHKoZIzj0CAQYIKoZIzj0DAQcDQgAEuJ9e5L+6hpUGLVVKZkmf22AJ",
  "q5U7mF+pvAcd2tafyUfqU+cYe05Jma2fspic8BIDp+FFBk3kaZQz1qtBDF2nNqMy",
  "MDAwDwYDVR0TAQH/BAUwAwEB/zAdBgNVHQ4EFgQUooE7kOgIVhk/8fXUtoSIRVgH",
  "ADIwCgYIKoZIzj0EAwIDRwAwRAIgEHhF2Q4WlTVMPX24LK2gLWEMP1slMZl7G0d0",
  "JgOboeICIEp6CO87uR0f4EJJIMKx/VUW9Vec7r0DsyfdZo8hC3f8"]

/-- Valid for `localhost`, `*.wild.example` and the loopback addresses. -/
def serverCertificate : String := block "CERTIFICATE" [
  "MIIBzzCCAXSgAwIBAgIBAzAKBggqhkjOPQQDAjAUMRIwEAYDVQQDDAlvcmFjbGUg",
  "Y2EwIBcNMDAwMTAxMDAwMDAwWhgPMjE5OTEyMzEwMDAwMDBaMBQxEjAQBgNVBAMM",
  "CWxvY2FsaG9zdDBZMBMGByqGSM49AgEGCCqGSM49AwEHA0IABBhTPX8qHltnTrFi",
  "sv6stJSChbWNNtYIfyY6cMXfldUJbxTQAhETkm3iVE8DAg7e/FIzHN2WZpbLEkfK",
  "RE9l2NmjgbQwgbEwDAYDVR0TAQH/BAIwADAOBgNVHQ8BAf8EBAMCB4AwEwYDVR0l",
  "BAwwCgYIKwYBBQUHAwEwPAYDVR0RBDUwM4IJbG9jYWxob3N0gg4qLndpbGQuZXhh",
  "bXBsZYcEfwAAAYcQAAAAAAAAAAAAAAAAAAAAATAdBgNVHQ4EFgQUebiqg7vu92Fp",
  "mH66l5KAt2A3mp4wHwYDVR0jBBgwFoAUq0zfVQa39X7JibCrQBCZ33IDTBcwCgYI",
  "KoZIzj0EAwIDSQAwRgIhAM7lm71DDeClU68rwAEMPUBxSGVrvTVRsLgHHKVgH9ds",
  "AiEAlSbHNVfAzSuxlwCBLIBz0IJ8jAPQXdRUwryuTMeEkMc="]

def serverKey : String := block "PRIVATE KEY" [
  "MIGHAgEAMBMGByqGSM49AgEGCCqGSM49AwEHBG0wawIBAQQgGumXoHaaeuanoGOp",
  "y4c5wTE6eGOOoLDNecZk37ecwrWhRANCAAQYUz1/Kh5bZ06xYrL+rLSUgoW1jTbW",
  "CH8mOnDF35XVCW8U0AIRE5Jt4lRPAwIO3vxSMxzdlmaWyxJHykRPZdjZ"]

def strangeKey : String := block "PRIVATE KEY" [
  "MIGHAgEAMBMGByqGSM49AgEGCCqGSM49AwEHBG0wawIBAQQgG5Uy49pAzfWxfBw2",
  "/WS2rLAvrXZYsYoBguiUERT1/tahRANCAAQF8xGFC9DFo/Ccc66GtOX50sO0YkuI",
  "Y/DgNW42B5WAH/+I9RpYFEmZaa91dKY1Fq8ulw9fI2wouI5I4vr31NQ9"]

end SecureGateway.Credentials
