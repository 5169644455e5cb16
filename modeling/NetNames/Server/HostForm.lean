import NetNames.Text.Ignorable
import NetNames.Text.Unseen

/-!
The form that a character takes in the name of a host. Letters lose their case and their style,
characters that are not shown are dropped, and those that would mislead are refused. Only forms in
ASCII are given; of other forms it is told that there is one.
-/
namespace NetNames.HostForm

open Text

/-- Characters that are seen and yet may not stand in a host name, be it for themselves or for the
form that they would take. -/
def refusedRanges : List (Nat × Nat) := [
  (0xa8, 0xa8), (0xaf, 0xaf), (0xb4, 0xb4), (0xb8, 0xb8), (0x2d8, 0x2dd), (0x37a, 0x37a),
  (0x384, 0x385), (0x1fbd, 0x1fbd), (0x1fbf, 0x1fc1), (0x1fcd, 0x1fcf), (0x1fdd, 0x1fdf),
  (0x1fed, 0x1fee), (0x1ffd, 0x1ffe), (0x2017, 0x2017), (0x2024, 0x2026), (0x203e, 0x203e),
  (0x2047, 0x2049), (0x2100, 0x2101), (0x2105, 0x2106), (0x2488, 0x249b), (0x2a74, 0x2a74),
  (0x2ff0, 0x2fff), (0x309b, 0x309c), (0x31ef, 0x31ef), (0x33c2, 0x33c2), (0x33c7, 0x33c7),
  (0x33d8, 0x33d8), (0xfc5e, 0xfc63), (0xfdfa, 0xfdfb), (0xfe12, 0xfe13), (0xfe16, 0xfe16),
  (0xfe19, 0xfe19), (0xfe30, 0xfe30), (0xfe47, 0xfe4c), (0xfe52, 0xfe52), (0xfe55, 0xfe56),
  (0xfe5f, 0xfe5f), (0xfe64, 0xfe65), (0xfe68, 0xfe68), (0xfe6a, 0xfe6b), (0xfe70, 0xfe70),
  (0xfe72, 0xfe72), (0xfe74, 0xfe74), (0xfe76, 0xfe76), (0xfe78, 0xfe78), (0xfe7a, 0xfe7a),
  (0xfe7c, 0xfe7c), (0xfe7e, 0xfe7e), (0xff03, 0xff03), (0xff05, 0xff05), (0xff0f, 0xff0f),
  (0xff1a, 0xff1a), (0xff1c, 0xff1c), (0xff1e, 0xff20), (0xff3b, 0xff3e), (0xff5c, 0xff5c),
  (0xffe3, 0xffe3), (0xfffc, 0xfffd), (0x1f100, 0x1f100)]

/-- Characters that are not seen and yet are not refused. -/
def unseenKeptRanges : List (Nat × Nat) := [
  (0xad, 0xad), (0x180e, 0x180e), (0x200b, 0x200d), (0x2060, 0x2064), (0x206a, 0x206f),
  (0xfeff, 0xfeff), (0x1bca0, 0x1bca3), (0x1d173, 0x1d17a)]

/-- Characters that take the form of one ASCII character: the first and the last of a run and the
form of its first. -/
def letterRuns : List (Nat × Nat × Char) := [
  (0xaa, 0xaa, 'a'), (0xb2, 0xb3, '2'), (0xb9, 0xb9, '1'), (0xba, 0xba, 'o'), (0x17f, 0x17f, 's'),
  (0x2b0, 0x2b0, 'h'), (0x2b2, 0x2b2, 'j'), (0x2b3, 0x2b3, 'r'), (0x2b7, 0x2b7, 'w'),
  (0x2b8, 0x2b8, 'y'), (0x2e1, 0x2e1, 'l'), (0x2e2, 0x2e2, 's'), (0x2e3, 0x2e3, 'x'),
  (0x37e, 0x37e, ';'), (0x1d2c, 0x1d2c, 'a'), (0x1d2e, 0x1d2e, 'b'), (0x1d30, 0x1d31, 'd'),
  (0x1d33, 0x1d3a, 'g'), (0x1d3c, 0x1d3c, 'o'), (0x1d3e, 0x1d3e, 'p'), (0x1d3f, 0x1d3f, 'r'),
  (0x1d40, 0x1d41, 't'), (0x1d42, 0x1d42, 'w'), (0x1d43, 0x1d43, 'a'), (0x1d47, 0x1d47, 'b'),
  (0x1d48, 0x1d49, 'd'), (0x1d4d, 0x1d4d, 'g'), (0x1d4f, 0x1d4f, 'k'), (0x1d50, 0x1d50, 'm'),
  (0x1d52, 0x1d52, 'o'), (0x1d56, 0x1d56, 'p'), (0x1d57, 0x1d58, 't'), (0x1d5b, 0x1d5b, 'v'),
  (0x1d62, 0x1d62, 'i'), (0x1d63, 0x1d63, 'r'), (0x1d64, 0x1d65, 'u'), (0x1d9c, 0x1d9c, 'c'),
  (0x1da0, 0x1da0, 'f'), (0x1dbb, 0x1dbb, 'z'), (0x1fef, 0x1fef, '\x60'), (0x2070, 0x2070, '0'),
  (0x2071, 0x2071, 'i'), (0x2074, 0x2079, '4'), (0x207a, 0x207a, '+'), (0x207c, 0x207c, '='),
  (0x207d, 0x207e, '('), (0x207f, 0x207f, 'n'), (0x2080, 0x2089, '0'), (0x208a, 0x208a, '+'),
  (0x208c, 0x208c, '='), (0x208d, 0x208e, '('), (0x2090, 0x2090, 'a'), (0x2091, 0x2091, 'e'),
  (0x2092, 0x2092, 'o'), (0x2093, 0x2093, 'x'), (0x2095, 0x2095, 'h'), (0x2096, 0x2099, 'k'),
  (0x209a, 0x209a, 'p'), (0x209b, 0x209c, 's'), (0x2102, 0x2102, 'c'), (0x210a, 0x210b, 'g'),
  (0x210c, 0x210c, 'h'), (0x210d, 0x210d, 'h'), (0x210e, 0x210e, 'h'), (0x2110, 0x2110, 'i'),
  (0x2111, 0x2111, 'i'), (0x2112, 0x2112, 'l'), (0x2113, 0x2113, 'l'), (0x2115, 0x2115, 'n'),
  (0x2119, 0x211b, 'p'), (0x211c, 0x211c, 'r'), (0x211d, 0x211d, 'r'), (0x2124, 0x2124, 'z'),
  (0x2128, 0x2128, 'z'), (0x212a, 0x212a, 'k'), (0x212c, 0x212d, 'b'), (0x212f, 0x212f, 'e'),
  (0x2130, 0x2131, 'e'), (0x2133, 0x2133, 'm'), (0x2134, 0x2134, 'o'), (0x2139, 0x2139, 'i'),
  (0x2145, 0x2145, 'd'), (0x2146, 0x2147, 'd'), (0x2148, 0x2149, 'i'), (0x2160, 0x2160, 'i'),
  (0x2164, 0x2164, 'v'), (0x2169, 0x2169, 'x'), (0x216c, 0x216c, 'l'), (0x216d, 0x216e, 'c'),
  (0x216f, 0x216f, 'm'), (0x2170, 0x2170, 'i'), (0x2174, 0x2174, 'v'), (0x2179, 0x2179, 'x'),
  (0x217c, 0x217c, 'l'), (0x217d, 0x217e, 'c'), (0x217f, 0x217f, 'm'), (0x2460, 0x2468, '1'),
  (0x24b6, 0x24cf, 'a'), (0x24d0, 0x24e9, 'a'), (0x24ea, 0x24ea, '0'), (0x2c7c, 0x2c7c, 'j'),
  (0x2c7d, 0x2c7d, 'v'), (0x3002, 0x3002, '.'), (0xa7f1, 0xa7f1, 's'), (0xa7f2, 0xa7f2, 'c'),
  (0xa7f3, 0xa7f3, 'f'), (0xa7f4, 0xa7f4, 'q'), (0xfb29, 0xfb29, '+'), (0xfe10, 0xfe10, ','),
  (0xfe14, 0xfe14, ';'), (0xfe15, 0xfe15, '!'), (0xfe33, 0xfe33, '_'), (0xfe34, 0xfe34, '_'),
  (0xfe35, 0xfe36, '('), (0xfe37, 0xfe37, '\x7b'), (0xfe38, 0xfe38, '\x7d'), (0xfe4d, 0xfe4d, '_'),
  (0xfe4e, 0xfe4e, '_'), (0xfe4f, 0xfe4f, '_'), (0xfe50, 0xfe50, ','), (0xfe54, 0xfe54, ';'),
  (0xfe57, 0xfe57, '!'), (0xfe59, 0xfe5a, '('), (0xfe5b, 0xfe5b, '\x7b'), (0xfe5c, 0xfe5c, '\x7d'),
  (0xfe60, 0xfe60, '&'), (0xfe61, 0xfe62, '*'), (0xfe63, 0xfe63, '-'), (0xfe66, 0xfe66, '='),
  (0xfe69, 0xfe69, '$'), (0xff01, 0xff02, '!'), (0xff04, 0xff04, '$'), (0xff06, 0xff0e, '&'),
  (0xff10, 0xff19, '0'), (0xff1b, 0xff1b, ';'), (0xff1d, 0xff1d, '='), (0xff21, 0xff3a, 'a'),
  (0xff3f, 0xff5b, '_'), (0xff5d, 0xff5e, '\x7d'), (0xff61, 0xff61, '.'), (0x107a5, 0x107a5, 'q'),
  (0x1ccd6, 0x1ccef, 'a'), (0x1ccf0, 0x1ccf9, '0'), (0x1d400, 0x1d419, 'a'),
  (0x1d41a, 0x1d433, 'a'), (0x1d434, 0x1d44d, 'a'), (0x1d44e, 0x1d454, 'a'),
  (0x1d456, 0x1d467, 'i'), (0x1d468, 0x1d481, 'a'), (0x1d482, 0x1d49b, 'a'),
  (0x1d49c, 0x1d49c, 'a'), (0x1d49e, 0x1d49f, 'c'), (0x1d4a2, 0x1d4a2, 'g'),
  (0x1d4a5, 0x1d4a6, 'j'), (0x1d4a9, 0x1d4ac, 'n'), (0x1d4ae, 0x1d4b5, 's'),
  (0x1d4b6, 0x1d4b9, 'a'), (0x1d4bb, 0x1d4bb, 'f'), (0x1d4bd, 0x1d4c3, 'h'),
  (0x1d4c5, 0x1d4cf, 'p'), (0x1d4d0, 0x1d4e9, 'a'), (0x1d4ea, 0x1d503, 'a'),
  (0x1d504, 0x1d505, 'a'), (0x1d507, 0x1d50a, 'd'), (0x1d50d, 0x1d514, 'j'),
  (0x1d516, 0x1d51c, 's'), (0x1d51e, 0x1d537, 'a'), (0x1d538, 0x1d539, 'a'),
  (0x1d53b, 0x1d53e, 'd'), (0x1d540, 0x1d544, 'i'), (0x1d546, 0x1d546, 'o'),
  (0x1d54a, 0x1d550, 's'), (0x1d552, 0x1d56b, 'a'), (0x1d56c, 0x1d585, 'a'),
  (0x1d586, 0x1d59f, 'a'), (0x1d5a0, 0x1d5b9, 'a'), (0x1d5ba, 0x1d5d3, 'a'),
  (0x1d5d4, 0x1d5ed, 'a'), (0x1d5ee, 0x1d607, 'a'), (0x1d608, 0x1d621, 'a'),
  (0x1d622, 0x1d63b, 'a'), (0x1d63c, 0x1d655, 'a'), (0x1d656, 0x1d66f, 'a'),
  (0x1d670, 0x1d689, 'a'), (0x1d68a, 0x1d6a3, 'a'), (0x1d7ce, 0x1d7d7, '0'),
  (0x1d7d8, 0x1d7e1, '0'), (0x1d7e2, 0x1d7eb, '0'), (0x1d7ec, 0x1d7f5, '0'),
  (0x1d7f6, 0x1d7ff, '0'), (0x1f12b, 0x1f12b, 'c'), (0x1f12c, 0x1f12c, 'r'),
  (0x1f130, 0x1f149, 'a'), (0x1fbf0, 0x1fbf9, '0')]

/-- Characters that take the form of several ASCII characters: the forms of consecutive characters,
from the first one on. -/
def wordRuns : List (Nat × String) := [
  (0x132, "ij ij"), (0x1c7, "lj lj lj nj nj nj"), (0x1f1, "dz dz dz"), (0x203c, "!!"),
  (0x20a8, "rs"), (0x2116, "no"), (0x2120, "sm tel tm"), (0x213b, "fax"), (0x2161, "ii iii iv"),
  (0x2165, "vi vii viii ix"), (0x216a, "xi xii"), (0x2171, "ii iii iv"), (0x2175, "vi vii viii ix"),
  (0x217a, "xi xii"),
  (0x2469, "10 11 12 13 14 15 16 17 18 19 20 (1) (2) (3) (4) (5) (6) (7) (8) (9) (10) (11) (12)"),
  (0x2480, "(13) (14) (15) (16) (17) (18) (19) (20)"),
  (0x249c, "(a) (b) (c) (d) (e) (f) (g) (h) (i) (j) (k) (l) (m) (n) (o) (p) (q) (r) (s) (t) (u)"),
  (0x24b1, "(v) (w) (x) (y) (z)"), (0x2a75, "== ==="),
  (0x3250, "pte 21 22 23 24 25 26 27 28 29 30 31 32 33 34 35"),
  (0x32b1, "36 37 38 39 40 41 42 43 44 45 46 47 48 49 50"), (0x32cc, "hg erg ev ltd"),
  (0x3371, "hpa da au bar ov pc dm dm2 dm3 iu"), (0x3380, "pa na"),
  (0x3383, "ma ka kb mb gb cal kcal pf nf"), (0x338e, "mg kg hz khz mhz ghz thz"),
  (0x3396, "ml dl kl fm nm"), (0x339c, "mm cm km mm2 cm2 m2 km2 mm3 cm3 m3 km3"),
  (0x33a9, "pa kpa mpa gpa rad"), (0x33b0, "ps ns"), (0x33b3, "ms pv nv"),
  (0x33b7, "mv kv mv pw nw"), (0x33bd, "mw kw mw"), (0x33c3, "bq cc cd"),
  (0x33c8, "db gy ha hp in kk km kt lm ln log lx mb mil mol ph"), (0x33d9, "ppm pr sr sv wb"),
  (0x33ff, "gal"), (0xfb00, "ff fi fl ffi ffl st st"), (0x1f101, "0, 1, 2, 3, 4, 5, 6, 7, 8, 9,"),
  (0x1f110, "(a) (b) (c) (d) (e) (f) (g) (h) (i) (j) (k) (l) (m) (n) (o) (p) (q) (r) (s) (t) (u)"),
  (0x1f125, "(v) (w) (x) (y) (z)"), (0x1f12d, "cd wz"), (0x1f14a, "hv mv sd ss ppv wc"),
  (0x1f16a, "mc md mr"), (0x1f190, "dj")]

/-- Runs of characters that take another form: the first, the last, the distance between them. -/
def changedRuns : List (Nat × Nat × Nat) := [
  (0xaa, 0xaa, 1), (0xb2, 0xb5, 1), (0xb9, 0xba, 1), (0xbc, 0xbe, 1), (0xc0, 0xd6, 1),
  (0xd8, 0xde, 1), (0x100, 0x130, 2), (0x132, 0x134, 1), (0x136, 0x136, 1), (0x139, 0x13d, 2),
  (0x13f, 0x141, 1), (0x143, 0x147, 2), (0x149, 0x14a, 1), (0x14c, 0x176, 2), (0x178, 0x179, 1),
  (0x17b, 0x17f, 2), (0x181, 0x182, 1), (0x184, 0x184, 1), (0x186, 0x187, 1), (0x189, 0x18b, 1),
  (0x18e, 0x191, 1), (0x193, 0x194, 1), (0x196, 0x198, 1), (0x19c, 0x19d, 1), (0x19f, 0x1a0, 1),
  (0x1a2, 0x1a4, 2), (0x1a6, 0x1a7, 1), (0x1a9, 0x1a9, 1), (0x1ac, 0x1ac, 1), (0x1ae, 0x1af, 1),
  (0x1b1, 0x1b3, 1), (0x1b5, 0x1b5, 1), (0x1b7, 0x1b8, 1), (0x1bc, 0x1bc, 1), (0x1c4, 0x1cd, 1),
  (0x1cf, 0x1db, 2), (0x1de, 0x1ee, 2), (0x1f1, 0x1f4, 1), (0x1f6, 0x1f8, 1), (0x1fa, 0x232, 2),
  (0x23a, 0x23b, 1), (0x23d, 0x23e, 1), (0x241, 0x241, 1), (0x243, 0x246, 1), (0x248, 0x24e, 2),
  (0x2b0, 0x2b8, 1), (0x2e0, 0x2e4, 1), (0x340, 0x341, 1), (0x343, 0x345, 1), (0x370, 0x376, 2),
  (0x37e, 0x38f, 1), (0x391, 0x3ab, 1), (0x3cf, 0x3d6, 1), (0x3d8, 0x3ee, 2), (0x3f0, 0x3f2, 1),
  (0x3f4, 0x3f5, 1), (0x3f7, 0x3f7, 1), (0x3f9, 0x3fa, 1), (0x3fd, 0x42f, 1), (0x460, 0x480, 2),
  (0x48a, 0x4be, 2), (0x4c0, 0x4c1, 1), (0x4c3, 0x4cd, 2), (0x4d0, 0x52e, 2), (0x531, 0x556, 1),
  (0x587, 0x587, 1), (0x675, 0x678, 1), (0x958, 0x95f, 1), (0x9dc, 0x9df, 1), (0xa33, 0xa33, 1),
  (0xa36, 0xa36, 1), (0xa59, 0xa5b, 1), (0xa5e, 0xa5e, 1), (0xb5c, 0xb5d, 1), (0xe33, 0xe33, 1),
  (0xeb3, 0xeb3, 1), (0xedc, 0xedd, 1), (0xf0c, 0xf0c, 1), (0xf43, 0xf43, 1), (0xf4d, 0xf4d, 1),
  (0xf52, 0xf52, 1), (0xf57, 0xf57, 1), (0xf5c, 0xf5c, 1), (0xf69, 0xf69, 1), (0xf73, 0xf73, 1),
  (0xf75, 0xf79, 1), (0xf81, 0xf81, 1), (0xf93, 0xf93, 1), (0xf9d, 0xf9d, 1), (0xfa2, 0xfa2, 1),
  (0xfa7, 0xfa7, 1), (0xfac, 0xfac, 1), (0xfb9, 0xfb9, 1), (0x10a0, 0x10cd, 1), (0x10fc, 0x10fc, 1),
  (0x13f8, 0x13fd, 1), (0x1c80, 0x1c89, 1), (0x1c90, 0x1cbf, 1), (0x1d2c, 0x1d2e, 1),
  (0x1d30, 0x1d3a, 1), (0x1d3c, 0x1d4d, 1), (0x1d4f, 0x1d6a, 1), (0x1d78, 0x1d78, 1),
  (0x1d9b, 0x1dbf, 1), (0x1e00, 0x1e94, 2), (0x1e9a, 0x1e9b, 1), (0x1e9e, 0x1efe, 2),
  (0x1f08, 0x1f0f, 1), (0x1f18, 0x1f1d, 1), (0x1f28, 0x1f2f, 1), (0x1f38, 0x1f3f, 1),
  (0x1f48, 0x1f4d, 1), (0x1f59, 0x1f5f, 1), (0x1f68, 0x1f6f, 1), (0x1f71, 0x1f7b, 2),
  (0x1f7d, 0x1faf, 1), (0x1fb2, 0x1fb4, 1), (0x1fb7, 0x1fc4, 1), (0x1fc7, 0x1fcc, 1),
  (0x1fd3, 0x1fd3, 1), (0x1fd8, 0x1fdb, 1), (0x1fe3, 0x1fe3, 1), (0x1fe8, 0x1ff4, 1),
  (0x1ff7, 0x1ffc, 1), (0x2011, 0x2011, 1), (0x2033, 0x2034, 1), (0x2036, 0x2037, 1),
  (0x203c, 0x203c, 1), (0x2057, 0x2057, 1), (0x2070, 0x209c, 1), (0x20a8, 0x20a8, 1),
  (0x2102, 0x2103, 1), (0x2107, 0x2107, 1), (0x2109, 0x2113, 1), (0x2115, 0x2116, 1),
  (0x2119, 0x211d, 1), (0x2120, 0x2122, 1), (0x2124, 0x2128, 2), (0x212a, 0x212d, 1),
  (0x212f, 0x2139, 1), (0x213b, 0x2140, 1), (0x2145, 0x2149, 1), (0x2150, 0x217f, 1),
  (0x2183, 0x2183, 1), (0x2189, 0x2189, 1), (0x222c, 0x222d, 1), (0x222f, 0x2230, 1),
  (0x2329, 0x232a, 1), (0x2460, 0x24ea, 1), (0x2a0c, 0x2a0c, 1), (0x2a75, 0x2a76, 1),
  (0x2adc, 0x2adc, 1), (0x2c00, 0x2c2f, 1), (0x2c60, 0x2c60, 1), (0x2c62, 0x2c64, 1),
  (0x2c67, 0x2c6b, 2), (0x2c6d, 0x2c70, 1), (0x2c72, 0x2c72, 1), (0x2c75, 0x2c75, 1),
  (0x2c7c, 0x2c80, 1), (0x2c82, 0x2ce2, 2), (0x2ceb, 0x2ced, 2), (0x2cf2, 0x2cf2, 1),
  (0x2d6f, 0x2d6f, 1), (0x2e9f, 0x2e9f, 1), (0x2ef3, 0x2fd5, 1), (0x3002, 0x3002, 1),
  (0x3036, 0x3036, 1), (0x3038, 0x303a, 1), (0x309f, 0x309f, 1), (0x30ff, 0x30ff, 1),
  (0x3131, 0x318e, 1), (0x3192, 0x319f, 1), (0x3200, 0x3247, 1), (0x3250, 0x327e, 1),
  (0x3280, 0x33ff, 1), (0xa640, 0xa66c, 2), (0xa680, 0xa69a, 2), (0xa69c, 0xa69d, 1),
  (0xa722, 0xa72e, 2), (0xa732, 0xa770, 2), (0xa779, 0xa77b, 2), (0xa77d, 0xa77e, 1),
  (0xa780, 0xa786, 2), (0xa78b, 0xa78d, 2), (0xa790, 0xa792, 2), (0xa796, 0xa7a8, 2),
  (0xa7aa, 0xa7ae, 1), (0xa7b0, 0xa7b4, 1), (0xa7b6, 0xa7c2, 2), (0xa7c4, 0xa7c7, 1),
  (0xa7c9, 0xa7c9, 1), (0xa7cb, 0xa7cc, 1), (0xa7ce, 0xa7da, 2), (0xa7dc, 0xa7f5, 1),
  (0xa7f8, 0xa7f9, 1), (0xab5c, 0xab5f, 1), (0xab69, 0xab69, 1), (0xab70, 0xabbf, 1),
  (0xf900, 0xfa0d, 1), (0xfa10, 0xfa12, 2), (0xfa15, 0xfa1e, 1), (0xfa20, 0xfa22, 2),
  (0xfa25, 0xfa26, 1), (0xfa2a, 0xfb1d, 1), (0xfb1f, 0xfbb1, 1), (0xfbd3, 0xfd3d, 1),
  (0xfd50, 0xfd8f, 1), (0xfd92, 0xfdc7, 1), (0xfdf0, 0xfdfc, 1), (0xfe10, 0xfe18, 1),
  (0xfe31, 0xfe44, 1), (0xfe4d, 0xfe71, 1), (0xfe77, 0xffee, 1), (0x10400, 0x10427, 1),
  (0x104b0, 0x104d3, 1), (0x10570, 0x10595, 1), (0x10781, 0x107ba, 1), (0x10c80, 0x10cb2, 1),
  (0x10d50, 0x10d65, 1), (0x118a0, 0x118bf, 1), (0x16e40, 0x16e5f, 1), (0x16ea0, 0x16eb8, 1),
  (0x1ccd6, 0x1ccf9, 1), (0x1d15e, 0x1d164, 1), (0x1d1bb, 0x1d1c0, 1), (0x1d400, 0x1d7ff, 1),
  (0x1e030, 0x1e06d, 1), (0x1e900, 0x1e921, 1), (0x1ee00, 0x1eebb, 1), (0x1f101, 0x1f10a, 1),
  (0x1f110, 0x1f12e, 1), (0x1f130, 0x1f14f, 1), (0x1f16a, 0x1f16c, 1), (0x1f190, 0x1f190, 1),
  (0x1f200, 0x1f251, 1), (0x1fbf0, 0x1fbf9, 1), (0x2f800, 0x2fa1d, 1)]

/-- ASCII characters that may not stand in a host name. -/
def isForbidden (c : Char) : Bool :=
  c.toNat ≤ 0x20 || c.toNat == 0x7f ||
    ['%', '#', '/', ':', '<', '>', '?', '@', '[', '\\', ']', '^', '|'].contains c

def isRefused (c : Char) : Bool :=
  if c.toNat < 0x80 then isForbidden c
  else isWithin refusedRanges c.toNat || (isUnseen c && !isWithin unseenKeptRanges c.toNat)

/-- Joiners are kept; what stands around them decides whether they may stand there. -/
def isJoiner (c : Char) : Bool := c == '\u200c' || c == '\u200d'

def isDropped (c : Char) : Bool := isIgnorable c && !isJoiner c

/-- Whether the character takes another form. -/
def isChanged (c : Char) : Bool :=
  let n := c.toNat
  ('A' ≤ c && c ≤ 'Z') ||
    (0x80 ≤ n && changedRuns.any fun (a, b, k) => a ≤ n && n ≤ b && (n - a) % k == 0)

/-- Whether the character stands for itself. -/
def isSettled (c : Char) : Bool := !isRefused c && !isDropped c && !isChanged c

private def letter? (n : Nat) : Option (List Char) :=
  (letterRuns.find? fun (a, b, _) => a ≤ n && n ≤ b).map fun (a, _, c) =>
    [Char.ofNat (c.toNat + (n - a))]

private def word? (n : Nat) : Option (List Char) :=
  wordRuns.findSome? fun (a, words) =>
    if a ≤ n && n < a + words.length then (words.toList.splitOn ' ')[n - a]? else none

/-- The form of a character, unless it is refused. -/
def form? (c : Char) : Option (List Char) :=
  if isRefused c then none
  else if c.toNat < 0x80 then some [c.toLower]
  else if isDropped c then some []
  else some (((letter? c.toNat).or (word? c.toNat)).getD [c])

/-- The form of a text. -/
def ofText? (s : List Char) : Option (List Char) := (s.mapM form?).map List.flatten

end NetNames.HostForm
