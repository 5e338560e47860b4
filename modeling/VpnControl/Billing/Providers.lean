/-
# Payment providers

The webhooks of the three gateways: each parser turns a request into the external
id, the reported amount and whether the event is a payment. The bodies are values
of Python's `json` module. Floats are exact here, so an amount and the text of it
stand for the same number; what is left of floating point are the values that are
no number.

The signature checks rest on code outside the repository. It is a parameter.
-/

import Mathlib.Data.List.Infix
import VpnControl.Billing.Model

namespace VpnControl.Billing

/-! ## Values -/

/-- A Python `float`. -/
inductive PyFloat
  | finite (value : ℚ)
  | nan
  | inf (negative : Bool)
  deriving DecidableEq, Repr

/-- `x > 0`. Comparisons with a NaN are false. -/
def PyFloat.isPositive : PyFloat → Bool
  | finite value => 0 < value
  | nan => false
  | inf negative => !negative

inductive Json
  | null
  | bool (value : Bool)
  | int (value : ℤ)
  | float (value : PyFloat)
  | str (value : String)
  | list (items : List Json)
  | dict (entries : List (String × Json))
  deriving Repr

/-- `str.strip()`. -/
def strip (text : String) : String :=
  String.ofList ((text.toList.dropWhile Char.isWhitespace).reverse.dropWhile
    Char.isWhitespace).reverse

/-- A run of digits. -/
def parseDigits (digits : List Char) : Option ℕ :=
  if digits ≠ [] ∧ digits.all Char.isDigit then
    some (digits.foldl (fun value digit => value * 10 + (digit.toNat - '0'.toNat)) 0)
  else none

/-- A decimal without sign and exponent: digits, a point, digits, of which one
run may be missing. -/
def parsePositional (text : List Char) : Option ℚ :=
  let whole := text.takeWhile (· ≠ '.')
  match text.dropWhile (· ≠ '.') with
  | [] => (parseDigits whole).map fun value => (value : ℚ)
  | _ :: fraction =>
    if whole = [] ∧ fraction = [] then none
    else do
      let high ← if whole = [] then some 0 else parseDigits whole
      let low ← if fraction = [] then some 0 else parseDigits fraction
      pure (high + low / 10 ^ fraction.length)

/-- A sign and what follows it. -/
def splitSign : List Char → Bool × List Char
  | '-' :: rest => (true, rest)
  | '+' :: rest => (false, rest)
  | rest => (false, rest)

/-- `float(text)` and `Decimal(text)`. -/
def parseFloat (text : String) : Option PyFloat :=
  let (negative, body) := splitSign ((strip text).toList.map Char.toLower)
  let sign : ℚ := if negative then -1 else 1
  if body = "nan".toList then some .nan
  else if body = "inf".toList ∨ body = "infinity".toList then some (.inf negative)
  else
    let mantissa := body.takeWhile (· ≠ 'e')
    match body.dropWhile (· ≠ 'e') with
    | [] => (parsePositional mantissa).map fun value => .finite (sign * value)
    | _ :: exponent => do
        let value ← parsePositional mantissa
        let (down, digits) := splitSign exponent
        let shift ← parseDigits digits
        pure (.finite (sign * value * if down then 1 / 10 ^ shift else 10 ^ shift))

namespace Json

/-- The truth value of what `dict.get` returned. -/
def truthy : Option Json → Bool
  | none => false
  | some null => false
  | some (bool value) => value
  | some (int value) => value ≠ 0
  | some (float value) => value ≠ .finite 0
  | some (str value) => value ≠ ""
  | some (list items) => !items.isEmpty
  | some (dict entries) => !entries.isEmpty

/-- `first or second`. -/
def orElse (first second : Option Json) : Option Json :=
  if truthy first then first else second

/-- `dict.get(key)`. -/
def lookup (entries : List (String × Json)) (key : String) : Option Json :=
  (entries.find? fun entry => entry.1 = key).map Prod.snd

/-- `type(value).__name__`. -/
def typeName : Json → String
  | null => "NoneType"
  | bool _ => "bool"
  | int _ => "int"
  | float _ => "float"
  | str _ => "str"
  | list _ => "list"
  | dict _ => "dict"

/-- The entries of a value that is used as a dictionary. -/
def entries : Json → Except BillingError (List (String × Json))
  | dict entries => .ok entries
  | other => .error (.other s!"'{other.typeName}' object has no attribute 'get'")

/-- `float(value)`. -/
def toFloat : Json → Option PyFloat
  | bool value => some (.finite (if value then 1 else 0))
  | int value => some (.finite value)
  | float value => some value
  | str value => parseFloat value
  | _ => none

/-- `Decimal(str(value))`. -/
def toDecimal : Json → Option PyFloat
  | int value => some (.finite value)
  | float value => some value
  | str value => parseFloat value
  | _ => none

end Json

/-! ## Configuration and environment -/

/-- The settings that billing reads. -/
structure BillingConfig where
  orderTtlMinutes : ℤ := 30
  expirationBatchSize : ℤ := 500
  cryptoApiKey : String := ""
  cryptoShopId : String := ""
  cryptoWebhookSecret : String := ""
  freekassaShopId : String := ""
  freekassaSecretWord1 : String := ""
  freekassaSecretWord2 : String := ""
  plategaShopId : String := ""
  plategaApiKey : String := ""
  deriving DecidableEq, Repr

/-- What `jwt.decode` raises. -/
inductive JwtError
  | expiredSignature
  | invalidToken (message : String)
  deriving DecidableEq, Repr

/-- Library code the providers call. -/
structure ProviderLibrary where
  /-- `jwt.decode(token, secret, algorithms=["HS256"])`. -/
  jwtDecode : Json → String → Except JwtError Unit
  /-- `hashlib.md5(text).hexdigest()`. -/
  md5 : String → String
  /-- The text Python prints for a float, a list or a dictionary. -/
  repr : Json → String

/-- `str(value)`. -/
def ProviderLibrary.str (lib : ProviderLibrary) : Option Json → String
  | none => "None"
  | some .null => "None"
  | some (.bool value) => if value then "True" else "False"
  | some (.int value) => toString value
  | some (.str value) => value
  | some value => lib.repr value

/-- An incoming HTTP request. -/
structure Request where
  method : String
  /-- Headers by lower-case name. -/
  header : String → Option String
  json : Except BillingError Json
  form : List (String × Json)
  queryParams : List (String × Json)

/-- `WebhookResult`. -/
structure WebhookResult where
  externalId : String
  amountRub : PyFloat
  shouldFulfill : Bool := true
  providerStatus : Option String := none
  feeRub : Option Money := none
  paymentMethod : Option ℤ := none
  deriving DecidableEq, Repr

def verificationFailed {α : Type} (message : String) : Except BillingError α :=
  .error (.webhookVerificationFailed message)

/-- `needle in text`. -/
def containsText (needle text : String) : Bool := decide (needle.toList <:+: text.toList)

/-! ## CryptoCloud -/

namespace CryptoProvider

variable (cfg : BillingConfig)

/-- `CryptoProvider.__init__`. -/
def init : Except BillingError Unit :=
  if cfg.cryptoApiKey = "" ∨ cfg.cryptoShopId = "" then
    .error (.providerError "CryptoCloud API key or shop_id not configured")
  else .ok ()

/-- The JSON body, or the form fields. -/
def body (request : Request) : Except BillingError (List (String × Json)) := do
  if containsText "application/json" ((request.header "content-type").getD "") then
    (← request.json).entries
  else pure request.form

variable (lib : ProviderLibrary)

/-- The token of the postback is the only thing that is signed. -/
def checkToken (token : Option Json) :
    Except BillingError Unit :=
  match token with
  | none => verificationFailed "Missing token in postback"
  | some value =>
    if ¬ Json.truthy (some value) then verificationFailed "Missing token in postback"
    else if cfg.cryptoWebhookSecret = "" then
      verificationFailed "Webhook secret not configured"
    else match lib.jwtDecode value cfg.cryptoWebhookSecret with
      | .ok () => .ok ()
      | .error .expiredSignature => verificationFailed "Postback token expired"
      | .error (.invalidToken message) =>
        verificationFailed s!"Invalid postback token: {message}"

def externalId (invoiceUuid invoiceId : Option Json) :
    Except BillingError String :=
  if ¬ Json.truthy invoiceUuid ∧ ¬ Json.truthy invoiceId then
    verificationFailed "Missing invoice_id in postback"
  else if Json.truthy invoiceUuid then .ok (lib.str invoiceUuid)
  else if (lib.str invoiceId).startsWith "INV-" then .ok (lib.str invoiceId)
  else .ok ("INV-" ++ lib.str invoiceId)

/-- The amount of the invoice. A body without one counts as zero, and so does an
amount that is no number. -/
def amountRub (info body : List (String × Json)) : PyFloat :=
  let raw := Json.orElse (Json.lookup info "amount_in_fiat")
    (Json.orElse (Json.lookup info "amount") (Json.orElse (Json.lookup body "amount_in_fiat")
        (Json.orElse (Json.lookup body "amount") (some (.int 0)))))
  (raw.bind Json.toFloat).getD (.finite 0)

/-- The upper-case status of the invoice, empty when the body has none. -/
def statusRaw (info body : List (String × Json)) : String :=
  (strip (lib.str (Json.orElse (Json.lookup info "status") (Json.orElse (Json.lookup body "status")
      (Json.orElse (Json.lookup body "invoice_status") (some (.str ""))))))).toUpper

/-- `CryptoProvider.verify_webhook`. -/
def verifyWebhook (request : Request) :
    Except BillingError WebhookResult := do
  let body ← body request
  checkToken cfg lib (Json.lookup body "token")
  let info ← ((Json.orElse (Json.lookup body "invoice_info") none).getD (.dict [])).entries
  let invoiceUuid := Json.orElse (Json.lookup info "uuid")
    (Json.orElse (Json.lookup body "uuid") (Json.lookup body "invoice_uuid"))
  let externalId ← externalId lib invoiceUuid (Json.lookup body "invoice_id")
  let status := statusRaw lib info body
  pure
    { externalId := externalId
      amountRub := amountRub info body
      shouldFulfill := status ∈ ["", "PAID", "OVERPAID", "SUCCESS"]
      providerStatus := if status = "" then none else some status }

end CryptoProvider

/-! ## FreeKassa -/

namespace FreeKassaProvider

/-- `FreeKassaProvider.__init__`. -/
def init (cfg : BillingConfig) : Except BillingError Unit :=
  if strip cfg.freekassaShopId = "" then
    .error (.providerError "FreeKassa shop_id not configured")
  else if cfg.freekassaSecretWord1 = "" then
    .error (.providerError "FreeKassa secret word 1 not configured")
  else .ok ()

/-- `FreeKassaProvider._pick`. -/
def pick (lib : ProviderLibrary) (data : List (String × Json)) : List String → Option String
  | [] => none
  | key :: rest =>
    match Json.lookup data key with
    | none => pick lib data rest
    | some .null => pick lib data rest
    | some value =>
      if strip (lib.str (some value)) = "" then pick lib data rest
      else some (lib.str (some value))

/-- `FreeKassaProvider._request_payload`. -/
def requestPayload (request : Request) : Except BillingError (List (String × Json)) := do
  if request.method.toUpper = "GET" then pure request.queryParams
  else if containsText "application/json" ((request.header "content-type").getD "").toLower then
    match ← request.json with
    | .dict entries => pure entries
    | _ => verificationFailed "Invalid FreeKassa JSON payload"
  else pure request.form

/-- `FreeKassaProvider._sign_webhook`. -/
def signWebhook (lib : ProviderLibrary) (merchantId amount secretWord2 orderId : String) : String :=
  lib.md5 s!"{merchantId}:{amount}:{secretWord2}:{orderId}"

/-- `FreeKassaProvider.verify_webhook`. -/
def verifyWebhook (cfg : BillingConfig) (lib : ProviderLibrary) (request : Request) :
    Except BillingError WebhookResult := do
  let params ← requestPayload request
  match pick lib params ["MERCHANT_ID", "merchant_id", "m"],
      pick lib params ["AMOUNT", "amount", "oa"],
      pick lib params ["MERCHANT_ORDER_ID", "merchant_order_id", "o"],
      pick lib params ["SIGN", "sign", "s"] with
  | some merchantId, some amount, some orderId, some signature =>
    if strip merchantId ≠ strip cfg.freekassaShopId then
      verificationFailed "FreeKassa merchant_id mismatch"
    else if cfg.freekassaSecretWord2 = "" then
      verificationFailed "FreeKassa secret word 2 not configured"
    else if (signWebhook lib (strip merchantId) (strip amount) cfg.freekassaSecretWord2
        (strip orderId)).toLower ≠ (strip signature).toLower then
      verificationFailed "Invalid FreeKassa signature"
    else match parseFloat (strip amount) with
      | none => verificationFailed "Invalid FreeKassa amount"
      | some amountRub => pure { externalId := strip orderId, amountRub := amountRub }
  | _, _, _, _ => verificationFailed "Missing required FreeKassa webhook fields"

end FreeKassaProvider

/-! ## Platega -/

namespace PlategaProvider

variable (cfg : BillingConfig)

/-- `PlategaProvider.__init__`. -/
def init : Except BillingError Unit :=
  if cfg.plategaShopId = "" then .error (.providerError "Platega shop_id not configured")
  else if cfg.plategaApiKey = "" then
    .error (.providerError "Platega API key not configured")
  else .ok ()

def checkHeaders (request : Request) : Except BillingError Unit :=
  let merchantId := strip ((request.header "x-merchantid").getD "")
  let secret := strip ((request.header "x-secret").getD "")
  if merchantId = "" ∨ secret = "" then verificationFailed "Missing Platega webhook headers"
  else if merchantId ≠ cfg.plategaShopId then
    verificationFailed "Platega merchant_id mismatch"
  else if secret ≠ cfg.plategaApiKey then
    verificationFailed "Invalid Platega webhook secret"
  else .ok ()

/-- `int(body.get("paymentMethod"))`, `None` when that raises. -/
def paymentMethod (value : Option Json) : Option ℤ :=
  match value with
  | some (.bool flag) => some (if flag then 1 else 0)
  | some (.int n) => some n
  | some (.float (.finite q)) => some (if 0 ≤ q then ⌊q⌋ else ⌈q⌉)
  | some (.str text) =>
    let (negative, digits) := splitSign (strip text).toList
    (parseDigits digits).map fun n => if negative then -(n : ℤ) else n
  | _ => none

/-- `PlategaProvider.verify_webhook`. -/
def verifyWebhook (lib : ProviderLibrary) (request : Request) :
    Except BillingError WebhookResult := do
  checkHeaders cfg request
  match ← request.json with
  | .dict body =>
    let externalId := Json.lookup body "id"
    let status := (strip (lib.str (Json.orElse (Json.lookup body "status")
      (some (.str ""))))).toUpper
    let currency := (strip (lib.str (Json.orElse (Json.lookup body "currency")
      (some (.str ""))))).toUpper
    match Json.lookup body "amount" with
    | none => verificationFailed "Missing required Platega webhook fields"
    | some .null => verificationFailed "Missing required Platega webhook fields"
    | some amount =>
      if ¬ Json.truthy externalId ∨ status = "" then
        verificationFailed "Missing required Platega webhook fields"
      else if currency ≠ "" ∧ currency ≠ "RUB" then
        verificationFailed "Unsupported Platega webhook currency"
      else match amount.toDecimal with
        | none => .error (.other "[<class 'decimal.ConversionSyntax'>]")
        | some amountRub =>
          pure
            { externalId := strip (lib.str externalId)
              amountRub := amountRub
              shouldFulfill := status = "CONFIRMED"
              providerStatus := some status
              paymentMethod := paymentMethod (Json.lookup body "paymentMethod") }
  | _ => verificationFailed "Invalid Platega webhook payload"

end PlategaProvider

/-! ## The registry -/

/-- `BillingService._get_provider`: the gateways of `PROVIDERS` by name. The result
is the webhook parser of the instance. -/
def getProvider (cfg : BillingConfig) (lib : ProviderLibrary) (name : String) :
    Except BillingError (Request → Except BillingError WebhookResult) := do
  if name = "crypto" then
    CryptoProvider.init cfg
    pure (CryptoProvider.verifyWebhook cfg lib)
  else if name = "freekassa" then
    FreeKassaProvider.init cfg
    pure (FreeKassaProvider.verifyWebhook cfg lib)
  else if name = "platega" then
    PlategaProvider.init cfg
    pure (PlategaProvider.verifyWebhook cfg lib)
  else .error (.providerError s!"Unknown provider: {name}")

end VpnControl.Billing
