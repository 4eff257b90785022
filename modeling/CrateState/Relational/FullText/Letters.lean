/-!
# Letters of the full-text tokenizers

The default tokenizer cuts text into runs of letters and numbers and folds each run so a
search finds it however written: upper case to lower and, optionally, Latin letters
without their diacritics. The tables come from the Unicode Character Database.

* `alnumRanges`: the characters above ASCII belonging to tokens, of the general categories
  of letters (`L*`), numbers (`N*`) and private use (`Co`).
* `lowerRuns` folds case in the Basic Multilingual Plane: a run `(lo, hi, delta, step)`
  maps every `step`-th character from `lo` to `hi` to the one `delta` away.
* `plainLetters` maps a lower-case Latin letter with diacritics to its ASCII letter,
  marking those with two diacritics, which only the thorough folding takes apart;
  `diacriticMarks` are the combining marks they are built with, which folding drops.
-/

namespace CrateState

namespace Relational

namespace FullText

/-- Sorted, disjoint, inclusive ranges of the code points above ASCII that are letters,
numbers or private-use characters. -/
def alnumRanges : Array (Nat × Nat) := #[
  (170, 170), (178, 179), (181, 181), (185, 186), (188, 190), (192, 214), (216, 246), (248, 705),
  (710, 721), (736, 740), (748, 748), (750, 750), (880, 884), (886, 887), (890, 893), (895, 895),
  (902, 902), (904, 906), (908, 908), (910, 929), (931, 1013), (1015, 1153), (1162, 1327),
  (1329, 1366), (1369, 1369), (1376, 1416), (1488, 1514), (1519, 1522), (1568, 1610), (1632, 1641),
  (1646, 1647), (1649, 1747), (1749, 1749), (1765, 1766), (1774, 1788), (1791, 1791), (1808, 1808),
  (1810, 1839), (1869, 1957), (1969, 1969), (1984, 2026), (2036, 2037), (2042, 2042), (2048, 2069),
  (2074, 2074), (2084, 2084), (2088, 2088), (2112, 2136), (2144, 2154), (2160, 2183), (2185, 2190),
  (2208, 2249), (2308, 2361), (2365, 2365), (2384, 2384), (2392, 2401), (2406, 2415), (2417, 2432),
  (2437, 2444), (2447, 2448), (2451, 2472), (2474, 2480), (2482, 2482), (2486, 2489), (2493, 2493),
  (2510, 2510), (2524, 2525), (2527, 2529), (2534, 2545), (2548, 2553), (2556, 2556), (2565, 2570),
  (2575, 2576), (2579, 2600), (2602, 2608), (2610, 2611), (2613, 2614), (2616, 2617), (2649, 2652),
  (2654, 2654), (2662, 2671), (2674, 2676), (2693, 2701), (2703, 2705), (2707, 2728), (2730, 2736),
  (2738, 2739), (2741, 2745), (2749, 2749), (2768, 2768), (2784, 2785), (2790, 2799), (2809, 2809),
  (2821, 2828), (2831, 2832), (2835, 2856), (2858, 2864), (2866, 2867), (2869, 2873), (2877, 2877),
  (2908, 2909), (2911, 2913), (2918, 2927), (2929, 2935), (2947, 2947), (2949, 2954), (2958, 2960),
  (2962, 2965), (2969, 2970), (2972, 2972), (2974, 2975), (2979, 2980), (2984, 2986), (2990, 3001),
  (3024, 3024), (3046, 3058), (3077, 3084), (3086, 3088), (3090, 3112), (3114, 3129), (3133, 3133),
  (3160, 3162), (3165, 3165), (3168, 3169), (3174, 3183), (3192, 3198), (3200, 3200), (3205, 3212),
  (3214, 3216), (3218, 3240), (3242, 3251), (3253, 3257), (3261, 3261), (3293, 3294), (3296, 3297),
  (3302, 3311), (3313, 3314), (3332, 3340), (3342, 3344), (3346, 3386), (3389, 3389), (3406, 3406),
  (3412, 3414), (3416, 3425), (3430, 3448), (3450, 3455), (3461, 3478), (3482, 3505), (3507, 3515),
  (3517, 3517), (3520, 3526), (3558, 3567), (3585, 3632), (3634, 3635), (3648, 3654), (3664, 3673),
  (3713, 3714), (3716, 3716), (3718, 3722), (3724, 3747), (3749, 3749), (3751, 3760), (3762, 3763),
  (3773, 3773), (3776, 3780), (3782, 3782), (3792, 3801), (3804, 3807), (3840, 3840), (3872, 3891),
  (3904, 3911), (3913, 3948), (3976, 3980), (4096, 4138), (4159, 4169), (4176, 4181), (4186, 4189),
  (4193, 4193), (4197, 4198), (4206, 4208), (4213, 4225), (4238, 4238), (4240, 4249), (4256, 4293),
  (4295, 4295), (4301, 4301), (4304, 4346), (4348, 4680), (4682, 4685), (4688, 4694), (4696, 4696),
  (4698, 4701), (4704, 4744), (4746, 4749), (4752, 4784), (4786, 4789), (4792, 4798), (4800, 4800),
  (4802, 4805), (4808, 4822), (4824, 4880), (4882, 4885), (4888, 4954), (4969, 4988), (4992, 5007),
  (5024, 5109), (5112, 5117), (5121, 5740), (5743, 5759), (5761, 5786), (5792, 5866), (5870, 5880),
  (5888, 5905), (5919, 5937), (5952, 5969), (5984, 5996), (5998, 6000), (6016, 6067), (6103, 6103),
  (6108, 6108), (6112, 6121), (6128, 6137), (6160, 6169), (6176, 6264), (6272, 6276), (6279, 6312),
  (6314, 6314), (6320, 6389), (6400, 6430), (6470, 6509), (6512, 6516), (6528, 6571), (6576, 6601),
  (6608, 6618), (6656, 6678), (6688, 6740), (6784, 6793), (6800, 6809), (6823, 6823), (6917, 6963),
  (6981, 6988), (6992, 7001), (7043, 7072), (7086, 7141), (7168, 7203), (7232, 7241), (7245, 7293),
  (7296, 7304), (7312, 7354), (7357, 7359), (7401, 7404), (7406, 7411), (7413, 7414), (7418, 7418),
  (7424, 7615), (7680, 7957), (7960, 7965), (7968, 8005), (8008, 8013), (8016, 8023), (8025, 8025),
  (8027, 8027), (8029, 8029), (8031, 8061), (8064, 8116), (8118, 8124), (8126, 8126), (8130, 8132),
  (8134, 8140), (8144, 8147), (8150, 8155), (8160, 8172), (8178, 8180), (8182, 8188), (8304, 8305),
  (8308, 8313), (8319, 8329), (8336, 8348), (8450, 8450), (8455, 8455), (8458, 8467), (8469, 8469),
  (8473, 8477), (8484, 8484), (8486, 8486), (8488, 8488), (8490, 8493), (8495, 8505), (8508, 8511),
  (8517, 8521), (8526, 8526), (8528, 8585), (9312, 9371), (9450, 9471), (10102, 10131),
  (11264, 11492), (11499, 11502), (11506, 11507), (11517, 11517), (11520, 11557), (11559, 11559),
  (11565, 11565), (11568, 11623), (11631, 11631), (11648, 11670), (11680, 11686), (11688, 11694),
  (11696, 11702), (11704, 11710), (11712, 11718), (11720, 11726), (11728, 11734), (11736, 11742),
  (11823, 11823), (12293, 12295), (12321, 12329), (12337, 12341), (12344, 12348), (12353, 12438),
  (12445, 12447), (12449, 12538), (12540, 12543), (12549, 12591), (12593, 12686), (12690, 12693),
  (12704, 12735), (12784, 12799), (12832, 12841), (12872, 12879), (12881, 12895), (12928, 12937),
  (12977, 12991), (13312, 19903), (19968, 42124), (42192, 42237), (42240, 42508), (42512, 42539),
  (42560, 42606), (42623, 42653), (42656, 42735), (42775, 42783), (42786, 42888), (42891, 42954),
  (42960, 42961), (42963, 42963), (42965, 42969), (42994, 43009), (43011, 43013), (43015, 43018),
  (43020, 43042), (43056, 43061), (43072, 43123), (43138, 43187), (43216, 43225), (43250, 43255),
  (43259, 43259), (43261, 43262), (43264, 43301), (43312, 43334), (43360, 43388), (43396, 43442),
  (43471, 43481), (43488, 43492), (43494, 43518), (43520, 43560), (43584, 43586), (43588, 43595),
  (43600, 43609), (43616, 43638), (43642, 43642), (43646, 43695), (43697, 43697), (43701, 43702),
  (43705, 43709), (43712, 43712), (43714, 43714), (43739, 43741), (43744, 43754), (43762, 43764),
  (43777, 43782), (43785, 43790), (43793, 43798), (43808, 43814), (43816, 43822), (43824, 43866),
  (43868, 43881), (43888, 44002), (44016, 44025), (44032, 55203), (55216, 55238), (55243, 55291),
  (57344, 64109), (64112, 64217), (64256, 64262), (64275, 64279), (64285, 64285), (64287, 64296),
  (64298, 64310), (64312, 64316), (64318, 64318), (64320, 64321), (64323, 64324), (64326, 64433),
  (64467, 64829), (64848, 64911), (64914, 64967), (65008, 65019), (65136, 65140), (65142, 65276),
  (65296, 65305), (65313, 65338), (65345, 65370), (65382, 65470), (65474, 65479), (65482, 65487),
  (65490, 65495), (65498, 65500), (65536, 65547), (65549, 65574), (65576, 65594), (65596, 65597),
  (65599, 65613), (65616, 65629), (65664, 65786), (65799, 65843), (65856, 65912), (65930, 65931),
  (66176, 66204), (66208, 66256), (66273, 66299), (66304, 66339), (66349, 66378), (66384, 66421),
  (66432, 66461), (66464, 66499), (66504, 66511), (66513, 66517), (66560, 66717), (66720, 66729),
  (66736, 66771), (66776, 66811), (66816, 66855), (66864, 66915), (66928, 66938), (66940, 66954),
  (66956, 66962), (66964, 66965), (66967, 66977), (66979, 66993), (66995, 67001), (67003, 67004),
  (67072, 67382), (67392, 67413), (67424, 67431), (67456, 67461), (67463, 67504), (67506, 67514),
  (67584, 67589), (67592, 67592), (67594, 67637), (67639, 67640), (67644, 67644), (67647, 67669),
  (67672, 67702), (67705, 67742), (67751, 67759), (67808, 67826), (67828, 67829), (67835, 67867),
  (67872, 67897), (67968, 68023), (68028, 68047), (68050, 68096), (68112, 68115), (68117, 68119),
  (68121, 68149), (68160, 68168), (68192, 68222), (68224, 68255), (68288, 68295), (68297, 68324),
  (68331, 68335), (68352, 68405), (68416, 68437), (68440, 68466), (68472, 68497), (68521, 68527),
  (68608, 68680), (68736, 68786), (68800, 68850), (68858, 68899), (68912, 68921), (69216, 69246),
  (69248, 69289), (69296, 69297), (69376, 69415), (69424, 69445), (69457, 69460), (69488, 69505),
  (69552, 69579), (69600, 69622), (69635, 69687), (69714, 69743), (69745, 69746), (69749, 69749),
  (69763, 69807), (69840, 69864), (69872, 69881), (69891, 69926), (69942, 69951), (69956, 69956),
  (69959, 69959), (69968, 70002), (70006, 70006), (70019, 70066), (70081, 70084), (70096, 70106),
  (70108, 70108), (70113, 70132), (70144, 70161), (70163, 70187), (70272, 70278), (70280, 70280),
  (70282, 70285), (70287, 70301), (70303, 70312), (70320, 70366), (70384, 70393), (70405, 70412),
  (70415, 70416), (70419, 70440), (70442, 70448), (70450, 70451), (70453, 70457), (70461, 70461),
  (70480, 70480), (70493, 70497), (70656, 70708), (70727, 70730), (70736, 70745), (70751, 70753),
  (70784, 70831), (70852, 70853), (70855, 70855), (70864, 70873), (71040, 71086), (71128, 71131),
  (71168, 71215), (71236, 71236), (71248, 71257), (71296, 71338), (71352, 71352), (71360, 71369),
  (71424, 71450), (71472, 71483), (71488, 71494), (71680, 71723), (71840, 71922), (71935, 71942),
  (71945, 71945), (71948, 71955), (71957, 71958), (71960, 71983), (71999, 71999), (72001, 72001),
  (72016, 72025), (72096, 72103), (72106, 72144), (72161, 72161), (72163, 72163), (72192, 72192),
  (72203, 72242), (72250, 72250), (72272, 72272), (72284, 72329), (72349, 72349), (72368, 72440),
  (72704, 72712), (72714, 72750), (72768, 72768), (72784, 72812), (72818, 72847), (72960, 72966),
  (72968, 72969), (72971, 73008), (73030, 73030), (73040, 73049), (73056, 73061), (73063, 73064),
  (73066, 73097), (73112, 73112), (73120, 73129), (73440, 73458), (73648, 73648), (73664, 73684),
  (73728, 74649), (74752, 74862), (74880, 75075), (77712, 77808), (77824, 78894), (82944, 83526),
  (92160, 92728), (92736, 92766), (92768, 92777), (92784, 92862), (92864, 92873), (92880, 92909),
  (92928, 92975), (92992, 92995), (93008, 93017), (93019, 93025), (93027, 93047), (93053, 93071),
  (93760, 93846), (93952, 94026), (94032, 94032), (94099, 94111), (94176, 94177), (94179, 94179),
  (94208, 100343), (100352, 101589), (101632, 101640), (110576, 110579), (110581, 110587),
  (110589, 110590), (110592, 110882), (110928, 110930), (110948, 110951), (110960, 111355),
  (113664, 113770), (113776, 113788), (113792, 113800), (113808, 113817), (119520, 119539),
  (119648, 119672), (119808, 119892), (119894, 119964), (119966, 119967), (119970, 119970),
  (119973, 119974), (119977, 119980), (119982, 119993), (119995, 119995), (119997, 120003),
  (120005, 120069), (120071, 120074), (120077, 120084), (120086, 120092), (120094, 120121),
  (120123, 120126), (120128, 120132), (120134, 120134), (120138, 120144), (120146, 120485),
  (120488, 120512), (120514, 120538), (120540, 120570), (120572, 120596), (120598, 120628),
  (120630, 120654), (120656, 120686), (120688, 120712), (120714, 120744), (120746, 120770),
  (120772, 120779), (120782, 120831), (122624, 122654), (123136, 123180), (123191, 123197),
  (123200, 123209), (123214, 123214), (123536, 123565), (123584, 123627), (123632, 123641),
  (124896, 124902), (124904, 124907), (124909, 124910), (124912, 124926), (124928, 125124),
  (125127, 125135), (125184, 125251), (125259, 125259), (125264, 125273), (126065, 126123),
  (126125, 126127), (126129, 126132), (126209, 126253), (126255, 126269), (126464, 126467),
  (126469, 126495), (126497, 126498), (126500, 126500), (126503, 126503), (126505, 126514),
  (126516, 126519), (126521, 126521), (126523, 126523), (126530, 126530), (126535, 126535),
  (126537, 126537), (126539, 126539), (126541, 126543), (126545, 126546), (126548, 126548),
  (126551, 126551), (126553, 126553), (126555, 126555), (126557, 126557), (126559, 126559),
  (126561, 126562), (126564, 126564), (126567, 126570), (126572, 126578), (126580, 126583),
  (126585, 126588), (126590, 126590), (126592, 126601), (126603, 126619), (126625, 126627),
  (126629, 126633), (126635, 126651), (127232, 127244), (130032, 130041), (131072, 173791),
  (173824, 177976), (177984, 178205), (178208, 183969), (183984, 191456), (194560, 195101),
  (196608, 201546), (983040, 1048573)
]

/-- Whether a code point above ASCII is a letter, a number or a private-use character. -/
def isAlnumCode (c : Nat) : Bool :=
  alnumRanges.any fun (lo, hi) => lo ≤ c && c ≤ hi

/-- Runs of the simple lower-case mapping of the Basic Multilingual Plane above ASCII:
from `lo` to `hi` every `step`-th code point maps to the one `delta` away. -/
def lowerRuns : Array (Nat × Nat × Int × Nat) := #[
  (192, 214, 32, 1), (216, 222, 32, 1), (256, 302, 1, 2), (304, 304, -199, 1), (306, 310, 1, 2),
  (313, 327, 1, 2), (330, 374, 1, 2), (376, 376, -121, 1), (377, 381, 1, 2), (385, 385, 210, 1),
  (386, 388, 1, 2), (390, 390, 206, 1), (391, 391, 1, 1), (393, 394, 205, 1), (395, 395, 1, 1),
  (398, 398, 79, 1), (399, 399, 202, 1), (400, 400, 203, 1), (401, 401, 1, 1), (403, 403, 205, 1),
  (404, 404, 207, 1), (406, 406, 211, 1), (407, 407, 209, 1), (408, 408, 1, 1), (412, 412, 211, 1),
  (413, 413, 213, 1), (415, 415, 214, 1), (416, 420, 1, 2), (422, 422, 218, 1), (423, 423, 1, 1),
  (425, 425, 218, 1), (428, 428, 1, 1), (430, 430, 218, 1), (431, 431, 1, 1), (433, 434, 217, 1),
  (435, 437, 1, 2), (439, 439, 219, 1), (440, 440, 1, 1), (444, 444, 1, 1), (452, 452, 2, 1),
  (453, 453, 1, 1), (455, 455, 2, 1), (456, 456, 1, 1), (458, 458, 2, 1), (459, 475, 1, 2),
  (478, 494, 1, 2), (497, 497, 2, 1), (498, 500, 1, 2), (502, 502, -97, 1), (503, 503, -56, 1),
  (504, 542, 1, 2), (544, 544, -130, 1), (546, 562, 1, 2), (570, 570, 10795, 1), (571, 571, 1, 1),
  (573, 573, -163, 1), (574, 574, 10792, 1), (577, 577, 1, 1), (579, 579, -195, 1),
  (580, 580, 69, 1), (581, 581, 71, 1), (582, 590, 1, 2), (880, 882, 1, 2), (886, 886, 1, 1),
  (895, 895, 116, 1), (902, 902, 38, 1), (904, 906, 37, 1), (908, 908, 64, 1), (910, 911, 63, 1),
  (913, 929, 32, 1), (931, 939, 32, 1), (975, 975, 8, 1), (984, 1006, 1, 2), (1012, 1012, -60, 1),
  (1015, 1015, 1, 1), (1017, 1017, -7, 1), (1018, 1018, 1, 1), (1021, 1023, -130, 1),
  (1024, 1039, 80, 1), (1040, 1071, 32, 1), (1120, 1152, 1, 2), (1162, 1214, 1, 2),
  (1216, 1216, 15, 1), (1217, 1229, 1, 2), (1232, 1326, 1, 2), (1329, 1366, 48, 1),
  (4256, 4293, 7264, 1), (4295, 4295, 7264, 1), (4301, 4301, 7264, 1), (5024, 5103, 38864, 1),
  (5104, 5109, 8, 1), (7312, 7354, -3008, 1), (7357, 7359, -3008, 1), (7680, 7828, 1, 2),
  (7838, 7838, -7615, 1), (7840, 7934, 1, 2), (7944, 7951, -8, 1), (7960, 7965, -8, 1),
  (7976, 7983, -8, 1), (7992, 7999, -8, 1), (8008, 8013, -8, 1), (8025, 8031, -8, 2),
  (8040, 8047, -8, 1), (8072, 8079, -8, 1), (8088, 8095, -8, 1), (8104, 8111, -8, 1),
  (8120, 8121, -8, 1), (8122, 8123, -74, 1), (8124, 8124, -9, 1), (8136, 8139, -86, 1),
  (8140, 8140, -9, 1), (8152, 8153, -8, 1), (8154, 8155, -100, 1), (8168, 8169, -8, 1),
  (8170, 8171, -112, 1), (8172, 8172, -7, 1), (8184, 8185, -128, 1), (8186, 8187, -126, 1),
  (8188, 8188, -9, 1), (8486, 8486, -7517, 1), (8490, 8490, -8383, 1), (8491, 8491, -8262, 1),
  (8498, 8498, 28, 1), (8544, 8559, 16, 1), (8579, 8579, 1, 1), (9398, 9423, 26, 1),
  (11264, 11311, 48, 1), (11360, 11360, 1, 1), (11362, 11362, -10743, 1), (11363, 11363, -3814, 1),
  (11364, 11364, -10727, 1), (11367, 11371, 1, 2), (11373, 11373, -10780, 1),
  (11374, 11374, -10749, 1), (11375, 11375, -10783, 1), (11376, 11376, -10782, 1),
  (11378, 11378, 1, 1), (11381, 11381, 1, 1), (11390, 11391, -10815, 1), (11392, 11490, 1, 2),
  (11499, 11501, 1, 2), (11506, 11506, 1, 1), (42560, 42604, 1, 2), (42624, 42650, 1, 2),
  (42786, 42798, 1, 2), (42802, 42862, 1, 2), (42873, 42875, 1, 2), (42877, 42877, -35332, 1),
  (42878, 42886, 1, 2), (42891, 42891, 1, 1), (42893, 42893, -42280, 1), (42896, 42898, 1, 2),
  (42902, 42920, 1, 2), (42922, 42922, -42308, 1), (42923, 42923, -42319, 1),
  (42924, 42924, -42315, 1), (42925, 42925, -42305, 1), (42926, 42926, -42308, 1),
  (42928, 42928, -42258, 1), (42929, 42929, -42282, 1), (42930, 42930, -42261, 1),
  (42931, 42931, 928, 1), (42932, 42946, 1, 2), (42948, 42948, -48, 1), (42949, 42949, -42307, 1),
  (42950, 42950, -35384, 1), (42951, 42953, 1, 2), (42960, 42960, 1, 1), (42966, 42968, 1, 2),
  (42997, 42997, 1, 1), (65313, 65338, 32, 1)
]

/-- The lower case of a code point of the Basic Multilingual Plane, or of a letter of the
Deseret alphabet, which lies outside it. -/
def lowerCode (c : Nat) : Nat :=
  if c < 128 then (if 65 ≤ c && c ≤ 90 then c + 32 else c)
  else if 66560 ≤ c && c < 66600 then c + 40
  else if c ≥ 65536 then c
  else
    match lowerRuns.find? fun (lo, hi, _, step) => lo ≤ c && c ≤ hi && (c - lo) % step == 0 with
    | some (_, _, delta, _) => (c + delta).toNat
    | none => c

/-- Lower-case Latin letters with diacritics, each with the ASCII letter it is built on and
whether it carries two diacritics. -/
def plainLetters : Array (Nat × Char × Bool) := #[
  (224, 'a', false), (225, 'a', false), (226, 'a', false), (227, 'a', false), (228, 'a', false),
  (229, 'a', false), (231, 'c', false), (232, 'e', false), (233, 'e', false), (234, 'e', false),
  (235, 'e', false), (236, 'i', false), (237, 'i', false), (238, 'i', false), (239, 'i', false),
  (241, 'n', false), (242, 'o', false), (243, 'o', false), (244, 'o', false), (245, 'o', false),
  (246, 'o', false), (249, 'u', false), (250, 'u', false), (251, 'u', false), (252, 'u', false),
  (253, 'y', false), (255, 'y', false), (257, 'a', false), (259, 'a', false), (261, 'a', false),
  (263, 'c', false), (265, 'c', false), (267, 'c', false), (269, 'c', false), (271, 'd', false),
  (275, 'e', false), (277, 'e', false), (279, 'e', false), (281, 'e', false), (283, 'e', false),
  (285, 'g', false), (287, 'g', false), (289, 'g', false), (291, 'g', false), (293, 'h', false),
  (297, 'i', false), (299, 'i', false), (301, 'i', false), (303, 'i', false), (309, 'j', false),
  (311, 'k', false), (314, 'l', false), (316, 'l', false), (318, 'l', false), (324, 'n', false),
  (326, 'n', false), (328, 'n', false), (333, 'o', false), (335, 'o', false), (337, 'o', false),
  (341, 'r', false), (343, 'r', false), (345, 'r', false), (347, 's', false), (349, 's', false),
  (351, 's', false), (353, 's', false), (355, 't', false), (357, 't', false), (361, 'u', false),
  (363, 'u', false), (365, 'u', false), (367, 'u', false), (369, 'u', false), (371, 'u', false),
  (373, 'w', false), (375, 'y', false), (378, 'z', false), (380, 'z', false), (382, 'z', false),
  (417, 'o', false), (432, 'u', false), (462, 'a', false), (464, 'i', false), (466, 'o', false),
  (468, 'u', false), (470, 'u', true), (472, 'u', true), (474, 'u', true), (476, 'u', true),
  (479, 'a', true), (487, 'g', false), (489, 'k', false), (491, 'o', false), (493, 'o', true),
  (496, 'j', false), (501, 'g', false), (505, 'n', false), (507, 'a', true), (513, 'a', false),
  (515, 'a', false), (517, 'e', false), (519, 'e', false), (521, 'i', false), (523, 'i', false),
  (525, 'o', false), (527, 'o', false), (529, 'r', false), (531, 'r', false), (533, 'u', false),
  (535, 'u', false), (537, 's', false), (539, 't', false), (543, 'h', false), (551, 'a', false),
  (553, 'e', false), (555, 'o', true), (557, 'o', true), (559, 'o', false), (561, 'o', true),
  (563, 'y', false), (7681, 'a', false), (7683, 'b', false), (7685, 'b', false), (7687, 'b', false),
  (7689, 'c', true), (7691, 'd', false), (7693, 'd', false), (7695, 'd', false), (7697, 'd', false),
  (7699, 'd', false), (7701, 'e', true), (7703, 'e', true), (7705, 'e', false), (7707, 'e', false),
  (7709, 'e', true), (7711, 'f', false), (7713, 'g', false), (7715, 'h', false), (7717, 'h', false),
  (7719, 'h', false), (7721, 'h', false), (7723, 'h', false), (7725, 'i', false), (7727, 'i', true),
  (7729, 'k', false), (7731, 'k', false), (7733, 'k', false), (7735, 'l', false), (7737, 'l', true),
  (7739, 'l', false), (7741, 'l', false), (7743, 'm', false), (7745, 'm', false),
  (7747, 'm', false), (7749, 'n', false), (7751, 'n', false), (7753, 'n', false),
  (7755, 'n', false), (7757, 'o', true), (7759, 'o', true), (7761, 'o', true), (7763, 'o', true),
  (7765, 'p', false), (7767, 'p', false), (7769, 'r', false), (7771, 'r', false), (7773, 'r', true),
  (7775, 'r', false), (7777, 's', false), (7779, 's', false), (7781, 's', true), (7783, 's', true),
  (7785, 's', true), (7787, 't', false), (7789, 't', false), (7791, 't', false), (7793, 't', false),
  (7795, 'u', false), (7797, 'u', false), (7799, 'u', false), (7801, 'u', true), (7803, 'u', true),
  (7805, 'v', false), (7807, 'v', false), (7809, 'w', false), (7811, 'w', false),
  (7813, 'w', false), (7815, 'w', false), (7817, 'w', false), (7819, 'x', false),
  (7821, 'x', false), (7823, 'y', false), (7825, 'z', false), (7827, 'z', false),
  (7829, 'z', false), (7830, 'h', false), (7831, 't', false), (7832, 'w', false),
  (7833, 'y', false), (7841, 'a', false), (7843, 'a', false), (7845, 'a', true), (7847, 'a', true),
  (7849, 'a', true), (7851, 'a', true), (7853, 'a', true), (7855, 'a', true), (7857, 'a', true),
  (7859, 'a', true), (7861, 'a', true), (7863, 'a', true), (7865, 'e', false), (7867, 'e', false),
  (7869, 'e', false), (7871, 'e', true), (7873, 'e', true), (7875, 'e', true), (7877, 'e', true),
  (7879, 'e', true), (7881, 'i', false), (7883, 'i', false), (7885, 'o', false), (7887, 'o', false),
  (7889, 'o', true), (7891, 'o', true), (7893, 'o', true), (7895, 'o', true), (7897, 'o', true),
  (7899, 'o', true), (7901, 'o', true), (7903, 'o', true), (7905, 'o', true), (7907, 'o', true),
  (7909, 'u', false), (7911, 'u', false), (7913, 'u', true), (7915, 'u', true), (7917, 'u', true),
  (7919, 'u', true), (7921, 'u', true), (7923, 'y', false), (7925, 'y', false), (7927, 'y', false),
  (7929, 'y', false)
]

/-- The combining marks the letters of `plainLetters` are built with. -/
def diacriticMarks : List Nat := [
  768, 769, 770, 771, 772, 774, 775, 776, 777, 778, 779, 780, 783, 785, 795, 803, 804, 805, 806,
  807, 808, 813, 814, 816, 817
]

end FullText

end Relational

end CrateState
