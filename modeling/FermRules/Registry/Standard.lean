import FermRules.Registry.Basic

/-! The keywords of the usual protocols, match modules and targets. -/

namespace FermRules.Registry

namespace Standard
open Keyword

def tcpKeywords : Keywords :=
  [(scalar "source-port").negatable, (scalar "destination-port").negatable,
   (flag "syn").negatable, (composite "tcp-flags" [.list, .list]).negatable,
   (scalar "tcp-option").negatable]

def udpKeywords : Keywords :=
  [(scalar "source-port").negatable, (scalar "destination-port").negatable]

def icmpKeywords : Keywords := [(scalar "icmp-type").negatable]

def icmp6Keywords : Keywords := [(scalar "icmpv6-type").negatable]

def sctpKeywords : Keywords :=
  [(scalar "source-port").negatable, (scalar "destination-port").negatable,
   (composite "chunk-types" [.scalar, .list]).negatable]

def dccpKeywords : Keywords :=
  [(scalar "source-port").negatable, (scalar "destination-port").negatable,
   (list "dccp-types").negatable, (scalar "dccp-option").negatable]

/-- Short and other names. The names that options are written with are among them, so that written
rules can be read again. -/
def aliases : List (String × String) :=
  [("p", "protocol"), ("s", "source"), ("d", "destination"), ("i", "in-interface"),
   ("o", "out-interface"), ("f", "fragment"), ("m", "match"), ("j", "jump"), ("g", "goto"),
   ("sport", "source-port"), ("dport", "destination-port"), ("sports", "source-ports"),
   ("dports", "destination-ports"), ("source-address", "source"),
   ("destination-address", "destination"), ("mod", "match")]

def conditions : Keywords :=
  [(scalar "protocol").negatable, (scalar "source").negatable.writtenAs "source-address",
   (scalar "destination").negatable.writtenAs "destination-address",
   (scalar "in-interface").negatable, (scalar "out-interface").negatable,
   (flag "fragment").negatable]

def protocols : List (String × Keywords) :=
  [("tcp", tcpKeywords),
   ("udp", udpKeywords),
   ("udplite", udpKeywords),
   ("icmp", icmpKeywords),
   ("ipv6-icmp", icmp6Keywords),
   ("icmpv6", icmp6Keywords),
   ("sctp", sctpKeywords),
   ("dccp", dccpKeywords)]

def modules : List (String × Keywords) :=
  [("tcp", tcpKeywords),
   ("udp", udpKeywords),
   ("udplite", udpKeywords),
   ("icmp", icmpKeywords),
   ("icmp6", icmp6Keywords),
   ("sctp", sctpKeywords),
   ("dccp", dccpKeywords),
   ("multiport",
    [(list "source-ports").negatable, (list "destination-ports").negatable,
     (list "ports").negatable]),
   ("state", [(list "state").negatable]),
   ("conntrack",
    [(list "ctstate").negatable, (scalar "ctproto").negatable, (scalar "ctorigsrc").negatable,
     (scalar "ctorigdst").negatable, (scalar "ctreplsrc").negatable,
     (scalar "ctrepldst").negatable, (scalar "ctorigsrcport").negatable,
     (scalar "ctorigdstport").negatable, (scalar "ctreplsrcport").negatable,
     (scalar "ctrepldstport").negatable, (list "ctstatus").negatable,
     (scalar "ctexpire").negatable, scalar "ctdir"]),
   ("comment", [literal "comment"]),
   ("limit", [literal "limit", literal "limit-burst"]),
   ("mac", [(scalar "mac-source").negatable]),
   ("mark", [(scalar "mark").negatable]),
   ("connmark", [(scalar "mark").negatable]),
   ("owner",
    [(scalar "uid-owner").negatable, (scalar "gid-owner").negatable,
     (flag "socket-exists").negatable, flag "suppl-groups"]),
   ("iprange", [(scalar "src-range").negatable, (scalar "dst-range").negatable]),
   ("length", [(scalar "length").negatable]),
   ("tos", [(scalar "tos").negatable]),
   ("pkttype", [(scalar "pkt-type").negatable]),
   ("helper", [(literal "helper").negatable]),
   ("recent",
    [literal "name", (flag "set").negatable, (flag "rcheck").negatable,
     (flag "update").negatable, (flag "remove").negatable, literal "seconds", flag "reap",
     literal "hitcount", flag "rttl", flag "rsource", flag "rdest", scalar "mask"]),
   ("set",
    [(composite "match-set" [.scalar, .list]).negatable, flag "return-nomatch",
     (flag "update-counters").negatable]),
   ("addrtype",
    [(list "src-type").negatable, (list "dst-type").negatable, flag "limit-iface-in",
     flag "limit-iface-out"]),
   ("physdev",
    [(scalar "physdev-in").negatable, (scalar "physdev-out").negatable,
     (flag "physdev-is-in").negatable, (flag "physdev-is-out").negatable,
     (flag "physdev-is-bridged").negatable]),
   ("string",
    [scalar "algo", scalar "from", scalar "to", (literal "string").negatable,
     (literal "hex-string").negatable, flag "icase"]),
   ("hashlimit",
    [literal "hashlimit-upto", literal "hashlimit-above", literal "hashlimit-burst",
     literal "hashlimit-mode", literal "hashlimit-name", literal "hashlimit-htable-size",
     literal "hashlimit-htable-max", literal "hashlimit-htable-expire",
     literal "hashlimit-htable-gcinterval", scalar "hashlimit-srcmask",
     scalar "hashlimit-dstmask"]),
   ("ttl", [scalar "ttl-eq", scalar "ttl-gt", scalar "ttl-lt"]),
   ("hl", [(scalar "hl-eq").negatable, scalar "hl-gt", scalar "hl-lt"]),
   ("dscp", [(scalar "dscp").negatable, (scalar "dscp-class").negatable]),
   ("connlimit",
    [literal "connlimit-upto", literal "connlimit-above", scalar "connlimit-mask",
     flag "connlimit-saddr", flag "connlimit-daddr"]),
   ("connbytes", [(scalar "connbytes").negatable, scalar "connbytes-dir", scalar "connbytes-mode"]),
   ("time",
    [literal "timestart", literal "timestop", (list "weekdays").negatable,
     (list "monthdays").negatable, literal "datestart", literal "datestop", flag "kerneltz",
     flag "utc"]),
   ("u32", [(literal "u32").negatable]),
   ("statistic",
    [scalar "mode", (literal "probability").negatable, (literal "every").negatable,
     literal "packet"]),
   ("policy",
    [scalar "dir", scalar "pol", flag "strict", (scalar "reqid").negatable,
     (scalar "spi").negatable, (scalar "proto").negatable, (scalar "mode").negatable,
     (scalar "tunnel-src").negatable, (scalar "tunnel-dst").negatable, flag "next"]),
   ("devgroup", [(scalar "src-group").negatable, (scalar "dst-group").negatable]),
   ("socket", [flag "transparent", flag "nowildcard", flag "restore-skmark"]),
   ("rpfilter", [flag "loose", flag "validmark", flag "accept-local", flag "invert"]),
   ("quota", [(literal "quota").negatable]),
   ("realm", [(scalar "realm").negatable]),
   ("cgroup", [(scalar "cgroup").negatable, (literal "path").negatable]),
   ("ah", [(scalar "ahspi").negatable]),
   ("esp", [(scalar "espspi").negatable]),
   ("ipv6header", [(literal "header").negatable, flag "soft"]),
   ("frag",
    [(scalar "fragid").negatable, (scalar "fraglen").negatable, flag "fragres", flag "fragfirst",
     flag "fragmore", flag "fraglast"]),
   ("rt",
    [(scalar "rt-type").negatable, (scalar "rt-segsleft").negatable, (scalar "rt-len").negatable,
     flag "rt-0-res", literal "rt-0-addrs", flag "rt-0-not-strict"])]

def targets : List (String × Keywords) :=
  [("ACCEPT", []),
   ("DROP", []),
   ("RETURN", []),
   ("QUEUE", []),
   ("NOTRACK", []),
   ("TRACE", []),
   ("REJECT", [scalar "reject-with"]),
   ("LOG",
    [scalar "log-level", literal "log-prefix", flag "log-tcp-sequence", flag "log-tcp-options",
     flag "log-ip-options", flag "log-uid", flag "log-macdecode"]),
   ("ULOG",
    [scalar "ulog-nlgroup", literal "ulog-prefix", scalar "ulog-cprange",
     scalar "ulog-qthreshold"]),
   ("NFLOG",
    [scalar "nflog-group", literal "nflog-prefix", scalar "nflog-range", scalar "nflog-size",
     scalar "nflog-threshold"]),
   ("SNAT", [literal "to-source", flag "random", flag "random-fully", flag "persistent"]),
   ("DNAT", [literal "to-destination", flag "random", flag "persistent"]),
   ("MASQUERADE", [literal "to-ports", flag "random", flag "random-fully"]),
   ("REDIRECT", [literal "to-ports", flag "random"]),
   ("NETMAP", [literal "to"]),
   ("MARK",
    [literal "set-mark", literal "set-xmark", literal "and-mark", literal "or-mark",
     literal "xor-mark"]),
   ("CONNMARK",
    [literal "set-mark", literal "set-xmark", flag "save-mark", flag "restore-mark",
     literal "nfmask", literal "ctmask", literal "mask"]),
   ("TCPMSS", [literal "set-mss", flag "clamp-mss-to-pmtu"]),
   ("TOS", [literal "set-tos", literal "and-tos", literal "or-tos", literal "xor-tos"]),
   ("DSCP", [literal "set-dscp", literal "set-dscp-class"]),
   ("TTL", [literal "ttl-set", literal "ttl-dec", literal "ttl-inc"]),
   ("HL", [literal "hl-set", literal "hl-dec", literal "hl-inc"]),
   ("CLASSIFY", [literal "set-class"]),
   ("NFQUEUE",
    [literal "queue-num", literal "queue-balance", flag "queue-bypass", flag "fail-open",
     flag "queue-cpu-fanout"]),
   ("CT",
    [flag "notrack", literal "helper", list "ctevents", list "expevents", literal "zone",
     literal "timeout"]),
   ("TPROXY", [literal "on-port", literal "on-ip", literal "tproxy-mark"]),
   ("CHECKSUM", [flag "checksum-fill"]),
   ("SET",
    [composite "add-set" [.scalar, .list], composite "del-set" [.scalar, .list], flag "exist",
     literal "timeout"]),
   ("SECMARK", [literal "selctx"]),
   ("CONNSECMARK", [flag "save", flag "restore"]),
   ("TEE", [literal "gateway"]),
   ("AUDIT", [scalar "type"])]

def protocolModules : List (String × String) := [("ipv6-icmp", "icmp6"), ("icmpv6", "icmp6")]

end Standard

def standard : Registry where
  aliases := Standard.aliases
  conditions := Standard.conditions
  protocols := Standard.protocols
  modules := Standard.modules
  targets := Standard.targets
  protocolModules := Standard.protocolModules

end FermRules.Registry
