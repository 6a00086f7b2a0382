/-!
# Scripts, as data

Ranges of code points of the larger scripts of the Unicode Character Database.
-/

set_option autoImplicit false

namespace ConsentBanner.Text

/-- Scripts by their names in lower case. -/
def scriptRanges : List (String × List (Nat × Nat)) := [
  ("arabic", [
    (1536, 1541), (1544, 1544), (1548, 1631), (1642, 1775), (1786, 1791), (1872, 1919),
    (2160, 2190), (2192, 2193), (2200, 2303), (64336, 64450), (64467, 64829), (64832, 64911),
    (64914, 64967), (64975, 64975), (65008, 65019), (65021, 65023), (65136, 65140),
    (65142, 65276), (126464, 126467), (126469, 126495), (126497, 126498), (126500, 126500),
    (126503, 126503), (126505, 126514), (126516, 126519), (126521, 126521), (126523, 126523),
    (126530, 126530), (126535, 126535), (126537, 126537), (126539, 126539), (126541, 126543),
    (126545, 126546), (126548, 126548), (126551, 126551), (126553, 126553), (126555, 126555),
    (126557, 126557), (126559, 126559), (126561, 126562), (126564, 126564), (126567, 126570),
    (126572, 126578), (126580, 126583), (126585, 126588), (126590, 126590), (126592, 126601),
    (126603, 126619), (126625, 126627), (126629, 126633), (126635, 126651), (126704, 126705)]),
  ("armenian", [
    (1329, 1366), (1369, 1418), (1423, 1423), (64275, 64279)]),
  ("bengali", [
    (2432, 2435), (2437, 2444), (2447, 2448), (2451, 2472), (2474, 2480), (2482, 2482),
    (2486, 2489), (2492, 2500), (2503, 2504), (2507, 2510), (2519, 2519), (2524, 2525),
    (2527, 2531), (2534, 2558)]),
  ("cyrillic", [
    (1024, 1154), (1162, 1327), (7296, 7304), (7467, 7467), (42560, 42606), (42622, 42651)]),
  ("devanagari", [
    (2304, 2431), (43250, 43263)]),
  ("georgian", [
    (4256, 4293), (4295, 4295), (4301, 4301), (4304, 4347), (4349, 4351), (7312, 7354),
    (7357, 7359), (11520, 11557), (11559, 11559), (11565, 11565)]),
  ("greek", [
    (880, 887), (890, 895), (900, 906), (908, 908), (910, 929), (931, 993), (1008, 1023),
    (7462, 7466), (7526, 7530), (7936, 7957), (7960, 7965), (7968, 8005), (8008, 8013),
    (8016, 8023), (8025, 8025), (8027, 8027), (8029, 8029), (8031, 8061), (8064, 8116),
    (8118, 8132), (8134, 8147), (8150, 8155), (8157, 8175), (8178, 8180), (8182, 8190),
    (8486, 8486), (43877, 43877), (65856, 65933), (65952, 65952), (119296, 119361),
    (119365, 119365)]),
  ("gujarati", [
    (2689, 2691), (2693, 2701), (2703, 2705), (2707, 2728), (2730, 2736), (2738, 2739),
    (2741, 2745), (2748, 2757), (2759, 2761), (2763, 2765), (2768, 2768), (2784, 2787),
    (2790, 2801), (2809, 2815)]),
  ("han", [
    (11904, 11929), (11931, 12019), (12032, 12245), (12293, 12293), (12295, 12295),
    (12321, 12329), (12344, 12347), (13312, 19903), (19968, 40959), (63744, 64109),
    (64112, 64217), (131072, 173791), (173824, 177976), (177984, 178205), (178208, 183969),
    (183984, 191456), (194560, 195101), (196608, 201546)]),
  ("hangul", [
    (4352, 4607), (12334, 12335), (12593, 12686), (43360, 43388), (44032, 55203), (55216, 55238),
    (55243, 55291)]),
  ("hebrew", [
    (1425, 1479), (1488, 1514), (1519, 1524), (64285, 64310), (64312, 64316), (64318, 64318),
    (64320, 64321), (64323, 64324), (64326, 64335)]),
  ("hiragana", [
    (12353, 12438), (12445, 12447), (110593, 110593), (110879, 110879), (110928, 110930)]),
  ("katakana", [
    (12449, 12539), (12541, 12543), (12784, 12799), (110576, 110579), (110581, 110587),
    (110589, 110590), (110592, 110592), (110880, 110882), (110948, 110951)]),
  ("khmer", [
    (6016, 6109), (6112, 6121), (6128, 6137), (6624, 6655)]),
  ("lao", [
    (3713, 3714), (3716, 3716), (3718, 3722), (3724, 3747), (3749, 3749), (3751, 3773),
    (3776, 3780), (3782, 3782), (3784, 3789), (3792, 3801), (3804, 3807)]),
  ("latin", [
    (65, 90), (97, 122), (192, 214), (216, 246), (248, 687), (7424, 7461), (7522, 7525),
    (7531, 7543), (7545, 7578), (7680, 7935), (8336, 8348), (8580, 8580), (10013, 10013),
    (11360, 11388), (11390, 11391), (42786, 42863), (42865, 42887), (42891, 42954),
    (42960, 42961), (42963, 42963), (42965, 42969), (42997, 42999), (43002, 43007),
    (43824, 43866), (43872, 43876), (43878, 43880), (64256, 64262), (122624, 122654)]),
  ("tamil", [
    (2946, 2947), (2949, 2954), (2958, 2960), (2962, 2965), (2969, 2970), (2972, 2972),
    (2974, 2975), (2979, 2980), (2984, 2986), (2990, 3001), (3006, 3010), (3014, 3016),
    (3018, 3021), (3024, 3024), (3031, 3031), (3046, 3066), (73664, 73713), (73727, 73727)]),
  ("telugu", [
    (3072, 3084), (3086, 3088), (3090, 3112), (3114, 3129), (3132, 3140), (3142, 3144),
    (3146, 3149), (3157, 3158), (3160, 3162), (3165, 3165), (3168, 3171), (3174, 3183),
    (3191, 3199)]),
  ("thai", [
    (3585, 3642), (3647, 3675)]),
  ("tibetan", [
    (3840, 3911), (3913, 3948), (3953, 3991), (3993, 4028), (4030, 4044), (4046, 4052),
    (4057, 4058)])]

end ConsentBanner.Text
