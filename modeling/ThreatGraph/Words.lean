import ThreatGraph.Vocabulary

/-!
# The words of the service

The vocabularies of threat data: types of indicators, statuses, severities, levels of sharing,
states of review, kinds of visibility, and degrees of precision.
-/

set_option autoImplicit false

namespace ThreatGraph

/-- The type of a threat indicator. -/
inductive IndicatorType where
  | adjustToken
  | apiKey
  | asNumber
  | banner
  | cmdLine
  | cookieName
  | crx
  | debugString
  | destPort
  | directory
  | domain
  | emailAddress
  | fileCreated
  | fileDeleted
  | fileMoved
  | fileName
  | fileOpened
  | fileRead
  | fileWritten
  | hashImphash
  | hashMd5
  | hashPdq
  | hashSha1
  | hashSha256
  | hashSha3_256
  | hashSsdeep
  | hashTmk
  | htmlId
  | httpRequest
  | ipAddress
  | ipSubnet
  | isp
  | latitude
  | launchAgent
  | location
  | longitude
  | malwareName
  | memoryAlloc
  | memoryProtect
  | memoryWritten
  | mutantCreated
  | mutex
  | nameServer
  | otherFileOp
  | password
  | passwordSalt
  | payloadData
  | payloadType
  | postData
  | protocol
  | referer
  | registrar
  | registryKey
  | regKeyCreated
  | regKeyDeleted
  | regKeyEnumerated
  | regKeyMonitored
  | regKeyOpened
  | regKeyValueCreated
  | regKeyValueDeleted
  | regKeyValueModified
  | regKeyValueQueried
  | signature
  | sourcePort
  | telephone
  | textString
  | trendQuery
  | uri
  | userAgent
  | volumeQueried
  | webstorageKey
  | webPayload
  | whoisName
  | whoisAddr1
  | whoisAddr2
  | xpi
  deriving DecidableEq, Repr, Inhabited

namespace IndicatorType

/-- The words of the vocabulary, in order. -/
def all : List IndicatorType :=
  [.adjustToken, .apiKey, .asNumber, .banner, .cmdLine, .cookieName, .crx, .debugString, .destPort,
   .directory, .domain, .emailAddress, .fileCreated, .fileDeleted, .fileMoved, .fileName,
   .fileOpened, .fileRead, .fileWritten, .hashImphash, .hashMd5, .hashPdq, .hashSha1, .hashSha256,
   .hashSha3_256, .hashSsdeep, .hashTmk, .htmlId, .httpRequest, .ipAddress, .ipSubnet, .isp,
   .latitude, .launchAgent, .location, .longitude, .malwareName, .memoryAlloc, .memoryProtect,
   .memoryWritten, .mutantCreated, .mutex, .nameServer, .otherFileOp, .password, .passwordSalt,
   .payloadData, .payloadType, .postData, .protocol, .referer, .registrar, .registryKey,
   .regKeyCreated, .regKeyDeleted, .regKeyEnumerated, .regKeyMonitored, .regKeyOpened,
   .regKeyValueCreated, .regKeyValueDeleted, .regKeyValueModified, .regKeyValueQueried, .signature,
   .sourcePort, .telephone, .textString, .trendQuery, .uri, .userAgent, .volumeQueried,
   .webstorageKey, .webPayload, .whoisName, .whoisAddr1, .whoisAddr2, .xpi]

/-- The text of a word. -/
def wire : IndicatorType → String
  | .adjustToken => "ADJUST_TOKEN"
  | .apiKey => "API_KEY"
  | .asNumber => "AS_NUMBER"
  | .banner => "BANNER"
  | .cmdLine => "CMD_LINE"
  | .cookieName => "COOKIE_NAME"
  | .crx => "CRX"
  | .debugString => "DEBUG_STRING"
  | .destPort => "DEST_PORT"
  | .directory => "DIRECTORY"
  | .domain => "DOMAIN"
  | .emailAddress => "EMAIL_ADDRESS"
  | .fileCreated => "FILE_CREATED"
  | .fileDeleted => "FILE_DELETED"
  | .fileMoved => "FILE_MOVED"
  | .fileName => "FILE_NAME"
  | .fileOpened => "FILE_OPENED"
  | .fileRead => "FILE_READ"
  | .fileWritten => "FILE_WRITTEN"
  | .hashImphash => "HASH_IMPHASH"
  | .hashMd5 => "HASH_MD5"
  | .hashPdq => "HASH_PDQ"
  | .hashSha1 => "HASH_SHA1"
  | .hashSha256 => "HASH_SHA256"
  | .hashSha3_256 => "HASH_SHA3_256"
  | .hashSsdeep => "HASH_SSDEEP"
  | .hashTmk => "HASH_TMK"
  | .htmlId => "HTML_ID"
  | .httpRequest => "HTTP_REQUEST"
  | .ipAddress => "IP_ADDRESS"
  | .ipSubnet => "IP_SUBNET"
  | .isp => "ISP"
  | .latitude => "LATITUDE"
  | .launchAgent => "LAUNCH_AGENT"
  | .location => "LOCATION"
  | .longitude => "LONGITUDE"
  | .malwareName => "MALWARE_NAME"
  | .memoryAlloc => "MEMORY_ALLOC"
  | .memoryProtect => "MEMORY_PROTECT"
  | .memoryWritten => "MEMORY_WRITTEN"
  | .mutantCreated => "MUTANT_CREATED"
  | .mutex => "MUTEX"
  | .nameServer => "NAME_SERVER"
  | .otherFileOp => "OTHER_FILE_OP"
  | .password => "PASSWORD"
  | .passwordSalt => "PASSWORD_SALT"
  | .payloadData => "PAYLOAD_DATA"
  | .payloadType => "PAYLOAD_TYPE"
  | .postData => "POST_DATA"
  | .protocol => "PROTOCOL"
  | .referer => "REFERER"
  | .registrar => "REGISTRAR"
  | .registryKey => "REGISTRY_KEY"
  | .regKeyCreated => "REG_KEY_CREATED"
  | .regKeyDeleted => "REG_KEY_DELETED"
  | .regKeyEnumerated => "REG_KEY_ENUMERATED"
  | .regKeyMonitored => "REG_KEY_MONITORED"
  | .regKeyOpened => "REG_KEY_OPENED"
  | .regKeyValueCreated => "REG_KEY_VALUE_CREATED"
  | .regKeyValueDeleted => "REG_KEY_VALUE_DELETED"
  | .regKeyValueModified => "REG_KEY_VALUE_MODIFIED"
  | .regKeyValueQueried => "REG_KEY_VALUE_QUERIED"
  | .signature => "SIGNATURE"
  | .sourcePort => "SOURCE_PORT"
  | .telephone => "TELEPHONE"
  | .textString => "TEXT_STRING"
  | .trendQuery => "TREND_QUERY"
  | .uri => "URI"
  | .userAgent => "USER_AGENT"
  | .volumeQueried => "VOLUME_QUERIED"
  | .webstorageKey => "WEBSTORAGE_KEY"
  | .webPayload => "WEB_PAYLOAD"
  | .whoisName => "WHOIS_NAME"
  | .whoisAddr1 => "WHOIS_ADDR1"
  | .whoisAddr2 => "WHOIS_ADDR2"
  | .xpi => "XPI"

end IndicatorType

instance : Vocabulary IndicatorType := ⟨"IndicatorType", IndicatorType.all, IndicatorType.wire⟩

/-- How malicious a threat is. -/
inductive Status where
  | malicious
  | nonMalicious
  | suspicious
  | unknown
  deriving DecidableEq, Repr, Inhabited

namespace Status

/-- The words of the vocabulary, in order. -/
def all : List Status :=
  [.malicious, .nonMalicious, .suspicious, .unknown]

/-- The text of a word. -/
def wire : Status → String
  | .malicious => "MALICIOUS"
  | .nonMalicious => "NON_MALICIOUS"
  | .suspicious => "SUSPICIOUS"
  | .unknown => "UNKNOWN"

end Status

instance : Vocabulary Status := ⟨"Status", Status.all, Status.wire⟩

/-- How severe a threat is, from least to most. -/
inductive Severity where
  | info
  | warning
  | severe
  deriving DecidableEq, Repr, Inhabited

namespace Severity

/-- The words of the vocabulary, in order. -/
def all : List Severity :=
  [.info, .warning, .severe]

/-- The text of a word. -/
def wire : Severity → String
  | .info => "INFO"
  | .warning => "WARNING"
  | .severe => "SEVERE"

end Severity

instance : Vocabulary Severity := ⟨"Severity", Severity.all, Severity.wire⟩

/-- With whom data may be shared, from everyone to the fewest. -/
inductive ShareLevel where
  | white
  | green
  | amber
  | red
  deriving DecidableEq, Repr, Inhabited

namespace ShareLevel

/-- The words of the vocabulary, in order. -/
def all : List ShareLevel :=
  [.white, .green, .amber, .red]

/-- The text of a word. -/
def wire : ShareLevel → String
  | .white => "WHITE"
  | .green => "GREEN"
  | .amber => "AMBER"
  | .red => "RED"

end ShareLevel

instance : Vocabulary ShareLevel := ⟨"ShareLevel", ShareLevel.all, ShareLevel.wire⟩

/-- How a descriptor was reviewed. -/
inductive ReviewStatus where
  | reviewedAutomatically
  | reviewedManually
  | unreviewed
  deriving DecidableEq, Repr, Inhabited

namespace ReviewStatus

/-- The words of the vocabulary, in order. -/
def all : List ReviewStatus :=
  [.reviewedAutomatically, .reviewedManually, .unreviewed]

/-- The text of a word. -/
def wire : ReviewStatus → String
  | .reviewedAutomatically => "REVIEWED_AUTOMATICALLY"
  | .reviewedManually => "REVIEWED_MANUALLY"
  | .unreviewed => "UNREVIEWED"

end ReviewStatus

instance : Vocabulary ReviewStatus := ⟨"ReviewStatus", ReviewStatus.all, ReviewStatus.wire⟩

/-- Who can see an object. -/
inductive PrivacyType where
  | visible
  | hasPrivacyGroup
  | hasWhitelist
  deriving DecidableEq, Repr, Inhabited

namespace PrivacyType

/-- The words of the vocabulary, in order. -/
def all : List PrivacyType :=
  [.visible, .hasPrivacyGroup, .hasWhitelist]

/-- The text of a word. -/
def wire : PrivacyType → String
  | .visible => "VISIBLE"
  | .hasPrivacyGroup => "HAS_PRIVACY_GROUP"
  | .hasWhitelist => "HAS_WHITELIST"

end PrivacyType

instance : Vocabulary PrivacyType := ⟨"PrivacyType", PrivacyType.all, PrivacyType.wire⟩

/-- How precise a detection is. -/
inductive PrecisionType where
  | unknown
  | low
  | medium
  | high
  deriving DecidableEq, Repr, Inhabited

namespace PrecisionType

/-- The words of the vocabulary, in order. -/
def all : List PrecisionType :=
  [.unknown, .low, .medium, .high]

/-- The text of a word. -/
def wire : PrecisionType → String
  | .unknown => "UNKNOWN"
  | .low => "LOW"
  | .medium => "MEDIUM"
  | .high => "HIGH"

end PrecisionType

instance : Vocabulary PrecisionType := ⟨"PrecisionType", PrecisionType.all, PrecisionType.wire⟩

end ThreatGraph
