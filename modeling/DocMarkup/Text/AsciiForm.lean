namespace DocMarkup.Text

/-!
# ASCII forms of characters

The compatibility decomposition of a character may hold ASCII characters: an
accented letter holds its base letter, a ligature its letters, a circled number
its digits. The ASCII form of a text keeps just these, in order, and drops
whatever has none.
-/

/--
Runs of characters whose ASCII forms ascend with them: the first and the last
code point of the run, and the code point of the form of the first.
-/
def ascendingForms : List (Nat × Nat × Nat) :=
  [
    (7475, 7482, 71), (8308, 8313, 52), (8320, 8329, 48), (8342, 8345, 107),
    (8473, 8475, 80), (8491, 8493, 65), (9312, 9320, 49), (9398, 9423, 65),
    (9424, 9449, 97), (12992, 13000, 49), (13144, 13153, 48), (13280, 13288, 49),
    (65281, 65374, 33), (119808, 119833, 65), (119834, 119859, 97), (119860, 119885, 65),
    (119886, 119892, 97), (119894, 119911, 105), (119912, 119937, 65),
    (119938, 119963, 97), (119977, 119980, 78), (119982, 119989, 83), (119990, 119993, 97),
    (119997, 120003, 104), (120005, 120015, 112), (120016, 120041, 65),
    (120042, 120067, 97), (120071, 120074, 68), (120077, 120084, 74), (120086, 120092, 83),
    (120094, 120119, 97), (120123, 120126, 68), (120128, 120132, 73), (120138, 120144, 83),
    (120146, 120171, 97), (120172, 120197, 65), (120198, 120223, 97), (120224, 120249, 65),
    (120250, 120275, 97), (120276, 120301, 65), (120302, 120327, 97), (120328, 120353, 65),
    (120354, 120379, 97), (120380, 120405, 65), (120406, 120431, 97), (120432, 120457, 65),
    (120458, 120483, 97), (120782, 120791, 48), (120792, 120801, 48), (120802, 120811, 48),
    (120812, 120821, 48), (120822, 120831, 48), (127280, 127305, 65), (130032, 130041, 48)
  ]

/-- The other ASCII forms, each with the runs of code points that have it. -/
def constantForms : List (String × List (Nat × Nat)) :=
  [
    (" ", [
      (160, 160), (168, 168), (175, 175), (180, 180), (184, 184), (728, 733), (890, 890),
      (900, 901), (8125, 8125), (8127, 8129), (8141, 8143), (8157, 8159), (8173, 8174),
      (8189, 8190), (8192, 8202), (8215, 8215), (8239, 8239), (8254, 8254), (8287, 8287),
      (12288, 12288), (12443, 12444), (64606, 64611), (65019, 65019), (65097, 65100),
      (65136, 65136), (65138, 65138), (65140, 65140), (65142, 65142), (65144, 65144),
      (65146, 65146), (65148, 65148), (65150, 65150), (65507, 65507)]),
    ("!", [(65045, 65045), (65111, 65111)]),
    ("#", [(65119, 65119)]),
    ("$", [(65129, 65129)]),
    ("%", [(65130, 65130)]),
    ("&", [(65120, 65120)]),
    ("(", [(8317, 8317), (8333, 8333), (65077, 65077), (65113, 65113)]),
    (")", [(8318, 8318), (8334, 8334), (65078, 65078), (65114, 65114)]),
    ("*", [(65121, 65121)]),
    ("+", [(8314, 8314), (8330, 8330), (64297, 64297), (65122, 65122)]),
    (",", [(65040, 65040), (65104, 65104)]),
    ("-", [(65123, 65123)]),
    (".", [(8228, 8228), (65106, 65106)]),
    ("0", [(8304, 8304), (9450, 9450)]),
    ("1", [(185, 185), (8543, 8543)]),
    ("2", [(178, 178)]),
    ("3", [(179, 179)]),
    (":", [(65043, 65043), (65109, 65109)]),
    (";", [(894, 894), (65044, 65044), (65108, 65108)]),
    ("<", [(8814, 8814), (65124, 65124)]),
    ("=", [(8316, 8316), (8332, 8332), (8800, 8800), (65126, 65126)]),
    (">", [(8815, 8815), (65125, 65125)]),
    ("?", [(65046, 65046), (65110, 65110)]),
    ("@", [(65131, 65131)]),
    ("A", [
      (192, 197), (256, 256), (258, 258), (260, 260), (461, 461), (478, 478), (480, 480),
      (506, 506), (512, 512), (514, 514), (550, 550), (7468, 7468), (7680, 7680),
      (7840, 7840), (7842, 7842), (7844, 7844), (7846, 7846), (7848, 7848), (7850, 7850),
      (7852, 7852), (7854, 7854), (7856, 7856), (7858, 7858), (7860, 7860), (7862, 7862),
      (13186, 13186), (119964, 119964), (120068, 120068), (120120, 120120)]),
    ("B", [
      (7470, 7470), (7682, 7682), (7684, 7684), (7686, 7686), (120069, 120069),
      (120121, 120121)]),
    ("C", [
      (199, 199), (262, 262), (264, 264), (266, 266), (268, 268), (7688, 7688),
      (8450, 8451), (8557, 8557), (42994, 42994), (119966, 119966), (127275, 127275)]),
    ("D", [
      (270, 270), (7472, 7472), (7690, 7690), (7692, 7692), (7694, 7694), (7696, 7696),
      (7698, 7698), (8517, 8517), (8558, 8558), (119967, 119967)]),
    ("E", [
      (200, 203), (274, 274), (276, 276), (278, 278), (280, 280), (282, 282), (516, 516),
      (518, 518), (552, 552), (7473, 7473), (7700, 7700), (7702, 7702), (7704, 7704),
      (7706, 7706), (7708, 7708), (7864, 7864), (7866, 7866), (7868, 7868), (7870, 7870),
      (7872, 7872), (7874, 7874), (7876, 7876), (7878, 7878), (8496, 8496)]),
    ("F", [(7710, 7710), (8457, 8457), (8497, 8497), (13196, 13196), (42995, 42995)]),
    ("G", [
      (284, 284), (286, 286), (288, 288), (290, 290), (486, 486), (500, 500),
      (7712, 7712), (119970, 119970)]),
    ("H", [
      (292, 292), (542, 542), (7714, 7714), (7716, 7716), (7718, 7718), (7720, 7720),
      (7722, 7722), (8459, 8461)]),
    ("I", [
      (204, 207), (296, 296), (298, 298), (300, 300), (302, 302), (304, 304), (463, 463),
      (520, 520), (522, 522), (7724, 7724), (7726, 7726), (7880, 7880), (7882, 7882),
      (8464, 8465), (8544, 8544)]),
    ("J", [(308, 308), (119973, 119973)]),
    ("K", [
      (310, 310), (488, 488), (7728, 7728), (7730, 7730), (7732, 7732), (8490, 8490),
      (119974, 119974)]),
    ("L", [
      (313, 313), (315, 315), (317, 317), (319, 319), (7734, 7734), (7736, 7736),
      (7738, 7738), (7740, 7740), (8466, 8466), (8556, 8556)]),
    ("M", [
      (7742, 7742), (7744, 7744), (7746, 7746), (8499, 8499), (8559, 8559),
      (13249, 13249)]),
    ("N", [
      (209, 209), (323, 323), (325, 325), (327, 327), (504, 504), (7748, 7748),
      (7750, 7750), (7752, 7752), (7754, 7754), (8469, 8469)]),
    ("O", [
      (210, 214), (332, 332), (334, 334), (336, 336), (416, 416), (465, 465), (490, 490),
      (492, 492), (524, 524), (526, 526), (554, 554), (556, 556), (558, 558), (560, 560),
      (7484, 7484), (7756, 7756), (7758, 7758), (7760, 7760), (7762, 7762), (7884, 7884),
      (7886, 7886), (7888, 7888), (7890, 7890), (7892, 7892), (7894, 7894), (7896, 7896),
      (7898, 7898), (7900, 7900), (7902, 7902), (7904, 7904), (7906, 7906),
      (120134, 120134)]),
    ("P", [(7486, 7486), (7764, 7764), (7766, 7766)]),
    ("Q", [(42996, 42996)]),
    ("R", [
      (340, 340), (342, 342), (344, 344), (528, 528), (530, 530), (7487, 7487),
      (7768, 7768), (7770, 7770), (7772, 7772), (7774, 7774), (8476, 8477),
      (127276, 127276)]),
    ("S", [
      (346, 346), (348, 348), (350, 350), (352, 352), (536, 536), (7776, 7776),
      (7778, 7778), (7780, 7780), (7782, 7782), (7784, 7784), (127274, 127274)]),
    ("T", [
      (354, 354), (356, 356), (538, 538), (7488, 7488), (7786, 7786), (7788, 7788),
      (7790, 7790), (7792, 7792)]),
    ("U", [
      (217, 220), (360, 360), (362, 362), (364, 364), (366, 366), (368, 368), (370, 370),
      (431, 431), (467, 467), (469, 469), (471, 471), (473, 473), (475, 475), (532, 532),
      (534, 534), (7489, 7489), (7794, 7794), (7796, 7796), (7798, 7798), (7800, 7800),
      (7802, 7802), (7908, 7908), (7910, 7910), (7912, 7912), (7914, 7914), (7916, 7916),
      (7918, 7918), (7920, 7920)]),
    ("V", [(7804, 7804), (7806, 7806), (8548, 8548), (11389, 11389), (13238, 13238)]),
    ("W", [
      (372, 372), (7490, 7490), (7808, 7808), (7810, 7810), (7812, 7812), (7814, 7814),
      (7816, 7816), (13244, 13244)]),
    ("X", [(7818, 7818), (7820, 7820), (8553, 8553)]),
    ("Y", [
      (221, 221), (374, 374), (376, 376), (562, 562), (7822, 7822), (7922, 7922),
      (7924, 7924), (7926, 7926), (7928, 7928)]),
    ("Z", [
      (377, 377), (379, 379), (381, 381), (7824, 7824), (7826, 7826), (7828, 7828),
      (8484, 8484), (8488, 8488)]),
    ("[", [(65095, 65095)]),
    ("\\", [(65128, 65128)]),
    ("]", [(65096, 65096)]),
    ("_", [(65075, 65076), (65101, 65103)]),
    ("\x60", [(8175, 8175)]),
    ("a", [
      (170, 170), (224, 229), (257, 257), (259, 259), (261, 261), (462, 462), (479, 479),
      (481, 481), (507, 507), (513, 513), (515, 515), (551, 551), (7491, 7491),
      (7681, 7681), (7834, 7834), (7841, 7841), (7843, 7843), (7845, 7845), (7847, 7847),
      (7849, 7849), (7851, 7851), (7853, 7853), (7855, 7855), (7857, 7857), (7859, 7859),
      (7861, 7861), (7863, 7863), (8336, 8336)]),
    ("b", [(7495, 7495), (7683, 7683), (7685, 7685), (7687, 7687)]),
    ("c", [
      (231, 231), (263, 263), (265, 265), (267, 267), (269, 269), (7580, 7580),
      (7689, 7689), (8573, 8573)]),
    ("d", [
      (271, 271), (7496, 7496), (7691, 7691), (7693, 7693), (7695, 7695), (7697, 7697),
      (7699, 7699), (8518, 8518), (8574, 8574)]),
    ("e", [
      (232, 235), (275, 275), (277, 277), (279, 279), (281, 281), (283, 283), (517, 517),
      (519, 519), (553, 553), (7497, 7497), (7701, 7701), (7703, 7703), (7705, 7705),
      (7707, 7707), (7709, 7709), (7865, 7865), (7867, 7867), (7869, 7869), (7871, 7871),
      (7873, 7873), (7875, 7875), (7877, 7877), (7879, 7879), (8337, 8337), (8495, 8495),
      (8519, 8519)]),
    ("f", [(7584, 7584), (7711, 7711), (119995, 119995)]),
    ("g", [
      (285, 285), (287, 287), (289, 289), (291, 291), (487, 487), (501, 501),
      (7501, 7501), (7713, 7713), (8458, 8458), (13197, 13197)]),
    ("h", [
      (293, 293), (543, 543), (688, 688), (7715, 7715), (7717, 7717), (7719, 7719),
      (7721, 7721), (7723, 7723), (7830, 7830), (8341, 8341), (8462, 8462)]),
    ("i", [
      (236, 239), (297, 297), (299, 299), (301, 301), (303, 303), (464, 464), (521, 521),
      (523, 523), (7522, 7522), (7725, 7725), (7727, 7727), (7881, 7881), (7883, 7883),
      (8305, 8305), (8505, 8505), (8520, 8520), (8560, 8560)]),
    ("j", [(309, 309), (496, 496), (690, 690), (8521, 8521), (11388, 11388)]),
    ("k", [
      (311, 311), (489, 489), (7503, 7503), (7729, 7729), (7731, 7731), (7733, 7733),
      (13248, 13248)]),
    ("l", [
      (314, 314), (316, 316), (318, 318), (320, 320), (737, 737), (7735, 7735),
      (7737, 7737), (7739, 7739), (7741, 7741), (8467, 8467), (8572, 8572),
      (13205, 13205)]),
    ("m", [
      (7504, 7504), (7743, 7743), (7745, 7745), (7747, 7747), (8575, 8575),
      (13211, 13211)]),
    ("n", [
      (241, 241), (324, 324), (326, 326), (328, 329), (505, 505), (7749, 7749),
      (7751, 7751), (7753, 7753), (7755, 7755), (8319, 8319)]),
    ("o", [
      (186, 186), (242, 246), (333, 333), (335, 335), (337, 337), (417, 417), (466, 466),
      (491, 491), (493, 493), (525, 525), (527, 527), (555, 555), (557, 557), (559, 559),
      (561, 561), (7506, 7506), (7757, 7757), (7759, 7759), (7761, 7761), (7763, 7763),
      (7885, 7885), (7887, 7887), (7889, 7889), (7891, 7891), (7893, 7893), (7895, 7895),
      (7897, 7897), (7899, 7899), (7901, 7901), (7903, 7903), (7905, 7905), (7907, 7907),
      (8338, 8338), (8500, 8500)]),
    ("p", [(7510, 7510), (7765, 7765), (7767, 7767), (8346, 8346)]),
    ("q", [(67493, 67493)]),
    ("r", [
      (341, 341), (343, 343), (345, 345), (529, 529), (531, 531), (691, 691),
      (7523, 7523), (7769, 7769), (7771, 7771), (7773, 7773), (7775, 7775)]),
    ("s", [
      (347, 347), (349, 349), (351, 351), (353, 353), (383, 383), (537, 537), (738, 738),
      (7777, 7777), (7779, 7779), (7781, 7781), (7783, 7783), (7785, 7785), (7835, 7835),
      (8347, 8347), (13234, 13234)]),
    ("t", [
      (355, 355), (357, 357), (539, 539), (7511, 7511), (7787, 7787), (7789, 7789),
      (7791, 7791), (7793, 7793), (7831, 7831), (8348, 8348)]),
    ("u", [
      (249, 252), (361, 361), (363, 363), (365, 365), (367, 367), (369, 369), (371, 371),
      (432, 432), (468, 468), (470, 470), (472, 472), (474, 474), (476, 476), (533, 533),
      (535, 535), (7512, 7512), (7524, 7524), (7795, 7795), (7797, 7797), (7799, 7799),
      (7801, 7801), (7803, 7803), (7909, 7909), (7911, 7911), (7913, 7913), (7915, 7915),
      (7917, 7917), (7919, 7919), (7921, 7921)]),
    ("v", [(7515, 7515), (7525, 7525), (7805, 7805), (7807, 7807), (8564, 8564)]),
    ("w", [
      (373, 373), (695, 695), (7809, 7809), (7811, 7811), (7813, 7813), (7815, 7815),
      (7817, 7817), (7832, 7832)]),
    ("x", [(739, 739), (7819, 7819), (7821, 7821), (8339, 8339), (8569, 8569)]),
    ("y", [
      (253, 253), (255, 255), (375, 375), (563, 563), (696, 696), (7823, 7823),
      (7833, 7833), (7923, 7923), (7925, 7925), (7927, 7927), (7929, 7929)]),
    ("z", [
      (378, 378), (380, 380), (382, 382), (7611, 7611), (7825, 7825), (7827, 7827),
      (7829, 7829)]),
    ("\x7b", [(65079, 65079), (65115, 65115)]),
    ("\x7d", [(65080, 65080), (65116, 65116)]),
    ("!!", [(8252, 8252)]),
    ("!?", [(8265, 8265)]),
    ("()", [(12800, 12830), (12832, 12867)]),
    ("..", [(8229, 8229), (65072, 65072)]),
    ("0,", [(127233, 127233)]),
    ("0.", [(127232, 127232)]),
    ("03", [(8585, 8585)]),
    ("1,", [(127234, 127234)]),
    ("1.", [(9352, 9352)]),
    ("10", [(9321, 9321), (13001, 13001), (13154, 13154), (13289, 13289)]),
    ("11", [(9322, 9322), (13002, 13002), (13155, 13155), (13290, 13290)]),
    ("12", [(189, 189), (9323, 9323), (13003, 13003), (13156, 13156), (13291, 13291)]),
    ("13", [(8531, 8531), (9324, 9324), (13157, 13157), (13292, 13292)]),
    ("14", [(188, 188), (9325, 9325), (13158, 13158), (13293, 13293)]),
    ("15", [(8533, 8533), (9326, 9326), (13159, 13159), (13294, 13294)]),
    ("16", [(8537, 8537), (9327, 9327), (13160, 13160), (13295, 13295)]),
    ("17", [(8528, 8528), (9328, 9328), (13161, 13161), (13296, 13296)]),
    ("18", [(8539, 8539), (9329, 9329), (13162, 13162), (13297, 13297)]),
    ("19", [(8529, 8529), (9330, 9330), (13163, 13163), (13298, 13298)]),
    ("2,", [(127235, 127235)]),
    ("2.", [(9353, 9353)]),
    ("20", [(9331, 9331), (13164, 13164), (13299, 13299)]),
    ("21", [(12881, 12881), (13165, 13165), (13300, 13300)]),
    ("22", [(12882, 12882), (13166, 13166), (13301, 13301)]),
    ("23", [(8532, 8532), (12883, 12883), (13167, 13167), (13302, 13302)]),
    ("24", [(12884, 12884), (13168, 13168), (13303, 13303)]),
    ("25", [(8534, 8534), (12885, 12885), (13304, 13304)]),
    ("26", [(12886, 12886), (13305, 13305)]),
    ("27", [(12887, 12887), (13306, 13306)]),
    ("28", [(12888, 12888), (13307, 13307)]),
    ("29", [(12889, 12889), (13308, 13308)]),
    ("3,", [(127236, 127236)]),
    ("3.", [(9354, 9354)]),
    ("30", [(12890, 12890), (13309, 13309)]),
    ("31", [(12891, 12891), (13310, 13310)]),
    ("32", [(12892, 12892)]),
    ("33", [(12893, 12893)]),
    ("34", [(190, 190), (12894, 12894)]),
    ("35", [(8535, 8535), (12895, 12895)]),
    ("36", [(12977, 12977)]),
    ("37", [(12978, 12978)]),
    ("38", [(8540, 8540), (12979, 12979)]),
    ("39", [(12980, 12980)]),
    ("4,", [(127237, 127237)]),
    ("4.", [(9355, 9355)]),
    ("40", [(12981, 12981)]),
    ("41", [(12982, 12982)]),
    ("42", [(12983, 12983)]),
    ("43", [(12984, 12984)]),
    ("44", [(12985, 12985)]),
    ("45", [(8536, 8536), (12986, 12986)]),
    ("46", [(12987, 12987)]),
    ("47", [(12988, 12988)]),
    ("48", [(12989, 12989)]),
    ("49", [(12990, 12990)]),
    ("5,", [(127238, 127238)]),
    ("5.", [(9356, 9356)]),
    ("50", [(12991, 12991)]),
    ("56", [(8538, 8538)]),
    ("58", [(8541, 8541)]),
    ("6,", [(127239, 127239)]),
    ("6.", [(9357, 9357)]),
    ("7,", [(127240, 127240)]),
    ("7.", [(9358, 9358)]),
    ("78", [(8542, 8542)]),
    ("8,", [(127241, 127241)]),
    ("8.", [(9359, 9359)]),
    ("9,", [(127242, 127242)]),
    ("9.", [(9360, 9360)]),
    ("==", [(10869, 10869)]),
    ("?!", [(8264, 8264)]),
    ("??", [(8263, 8263)]),
    ("AU", [(13171, 13171)]),
    ("Am", [(13279, 13279)]),
    ("Bq", [(13251, 13251)]),
    ("CD", [(127277, 127277)]),
    ("DJ", [(127376, 127376)]),
    ("DZ", [(452, 452), (497, 497)]),
    ("Dz", [(453, 453), (498, 498)]),
    ("GB", [(13191, 13191)]),
    ("Gy", [(13257, 13257)]),
    ("HP", [(13259, 13259)]),
    ("HV", [(127306, 127306)]),
    ("Hg", [(13004, 13004)]),
    ("Hz", [(13200, 13200)]),
    ("II", [(8545, 8545)]),
    ("IJ", [(306, 306)]),
    ("IU", [(13178, 13178)]),
    ("IV", [(8547, 8547)]),
    ("IX", [(8552, 8552)]),
    ("KB", [(13189, 13189)]),
    ("KK", [(13261, 13261)]),
    ("KM", [(13262, 13262)]),
    ("LJ", [(455, 455)]),
    ("Lj", [(456, 456)]),
    ("MB", [(13190, 13190)]),
    ("MC", [(127338, 127338)]),
    ("MD", [(127339, 127339)]),
    ("MR", [(127340, 127340)]),
    ("MV", [(13241, 13241), (127307, 127307)]),
    ("MW", [(13247, 13247)]),
    ("NJ", [(458, 458)]),
    ("Nj", [(459, 459)]),
    ("No", [(8470, 8470)]),
    ("PH", [(13271, 13271)]),
    ("PR", [(13274, 13274)]),
    ("Pa", [(13225, 13225)]),
    ("Rs", [(8360, 8360)]),
    ("SD", [(127308, 127308)]),
    ("SM", [(8480, 8480)]),
    ("SS", [(127309, 127309)]),
    ("Sv", [(13276, 13276)]),
    ("TM", [(8482, 8482)]),
    ("VI", [(8549, 8549)]),
    ("Vm", [(13278, 13278)]),
    ("WC", [(127311, 127311)]),
    ("WZ", [(127278, 127278)]),
    ("Wb", [(13277, 13277)]),
    ("XI", [(8554, 8554)]),
    ("cc", [(13252, 13252)]),
    ("cd", [(13253, 13253)]),
    ("cm", [(13213, 13213)]),
    ("dB", [(13256, 13256)]),
    ("da", [(13170, 13170)]),
    ("dl", [(13207, 13207)]),
    ("dm", [(13175, 13175)]),
    ("dz", [(454, 454), (499, 499)]),
    ("eV", [(13006, 13006)]),
    ("ff", [(64256, 64256)]),
    ("fi", [(64257, 64257)]),
    ("fl", [(64258, 64258)]),
    ("fm", [(13209, 13209)]),
    ("ha", [(13258, 13258)]),
    ("ii", [(8561, 8561)]),
    ("ij", [(307, 307)]),
    ("in", [(13260, 13260)]),
    ("iv", [(8563, 8563)]),
    ("ix", [(8568, 8568)]),
    ("kA", [(13188, 13188)]),
    ("kV", [(13240, 13240)]),
    ("kW", [(13246, 13246)]),
    ("kg", [(13199, 13199)]),
    ("kl", [(13208, 13208)]),
    ("km", [(13214, 13214)]),
    ("kt", [(13263, 13263)]),
    ("lj", [(457, 457)]),
    ("lm", [(13264, 13264)]),
    ("ln", [(13265, 13265)]),
    ("lx", [(13267, 13267)]),
    ("m2", [(13217, 13217)]),
    ("m3", [(13221, 13221)]),
    ("mA", [(13187, 13187)]),
    ("mV", [(13239, 13239)]),
    ("mW", [(13245, 13245)]),
    ("mb", [(13268, 13268)]),
    ("mg", [(13198, 13198)]),
    ("ml", [(13206, 13206)]),
    ("mm", [(13212, 13212)]),
    ("ms", [(13223, 13223), (13235, 13235)]),
    ("nA", [(13185, 13185)]),
    ("nF", [(13195, 13195)]),
    ("nV", [(13237, 13237)]),
    ("nW", [(13243, 13243)]),
    ("nj", [(460, 460)]),
    ("nm", [(13210, 13210)]),
    ("ns", [(13233, 13233)]),
    ("oV", [(13173, 13173)]),
    ("pA", [(13184, 13184)]),
    ("pF", [(13194, 13194)]),
    ("pV", [(13236, 13236)]),
    ("pW", [(13242, 13242)]),
    ("pc", [(13174, 13174)]),
    ("ps", [(13232, 13232)]),
    ("sr", [(13275, 13275)]),
    ("st", [(64261, 64262)]),
    ("vi", [(8565, 8565)]),
    ("xi", [(8570, 8570)]),
    ("   ", [(65018, 65018)]),
    ("(1)", [(9332, 9332)]),
    ("(2)", [(9333, 9333)]),
    ("(3)", [(9334, 9334)]),
    ("(4)", [(9335, 9335)]),
    ("(5)", [(9336, 9336)]),
    ("(6)", [(9337, 9337)]),
    ("(7)", [(9338, 9338)]),
    ("(8)", [(9339, 9339)]),
    ("(9)", [(9340, 9340)]),
    ("(A)", [(127248, 127248)]),
    ("(B)", [(127249, 127249)]),
    ("(C)", [(127250, 127250)]),
    ("(D)", [(127251, 127251)]),
    ("(E)", [(127252, 127252)]),
    ("(F)", [(127253, 127253)]),
    ("(G)", [(127254, 127254)]),
    ("(H)", [(127255, 127255)]),
    ("(I)", [(127256, 127256)]),
    ("(J)", [(127257, 127257)]),
    ("(K)", [(127258, 127258)]),
    ("(L)", [(127259, 127259)]),
    ("(M)", [(127260, 127260)]),
    ("(N)", [(127261, 127261)]),
    ("(O)", [(127262, 127262)]),
    ("(P)", [(127263, 127263)]),
    ("(Q)", [(127264, 127264)]),
    ("(R)", [(127265, 127265)]),
    ("(S)", [(127266, 127266)]),
    ("(T)", [(127267, 127267)]),
    ("(U)", [(127268, 127268)]),
    ("(V)", [(127269, 127269)]),
    ("(W)", [(127270, 127270)]),
    ("(X)", [(127271, 127271)]),
    ("(Y)", [(127272, 127272)]),
    ("(Z)", [(127273, 127273)]),
    ("(a)", [(9372, 9372)]),
    ("(b)", [(9373, 9373)]),
    ("(c)", [(9374, 9374)]),
    ("(d)", [(9375, 9375)]),
    ("(e)", [(9376, 9376)]),
    ("(f)", [(9377, 9377)]),
    ("(g)", [(9378, 9378)]),
    ("(h)", [(9379, 9379)]),
    ("(i)", [(9380, 9380)]),
    ("(j)", [(9381, 9381)]),
    ("(k)", [(9382, 9382)]),
    ("(l)", [(9383, 9383)]),
    ("(m)", [(9384, 9384)]),
    ("(n)", [(9385, 9385)]),
    ("(o)", [(9386, 9386)]),
    ("(p)", [(9387, 9387)]),
    ("(q)", [(9388, 9388)]),
    ("(r)", [(9389, 9389)]),
    ("(s)", [(9390, 9390)]),
    ("(t)", [(9391, 9391)]),
    ("(u)", [(9392, 9392)]),
    ("(v)", [(9393, 9393)]),
    ("(w)", [(9394, 9394)]),
    ("(x)", [(9395, 9395)]),
    ("(y)", [(9396, 9396)]),
    ("(z)", [(9397, 9397)]),
    ("...", [(8230, 8230), (65049, 65049)]),
    ("10.", [(9361, 9361)]),
    ("11.", [(9362, 9362)]),
    ("110", [(8530, 8530)]),
    ("12.", [(9363, 9363)]),
    ("13.", [(9364, 9364)]),
    ("14.", [(9365, 9365)]),
    ("15.", [(9366, 9366)]),
    ("16.", [(9367, 9367)]),
    ("17.", [(9368, 9368)]),
    ("18.", [(9369, 9369)]),
    ("19.", [(9370, 9370)]),
    ("20.", [(9371, 9371)]),
    ("::=", [(10868, 10868)]),
    ("===", [(10870, 10870)]),
    ("Ckg", [(13254, 13254)]),
    ("Co.", [(13255, 13255)]),
    ("FAX", [(8507, 8507)]),
    ("GHz", [(13203, 13203)]),
    ("GPa", [(13228, 13228)]),
    ("III", [(8546, 8546)]),
    ("LTD", [(13007, 13007)]),
    ("MHz", [(13202, 13202)]),
    ("MPa", [(13227, 13227)]),
    ("PPM", [(13273, 13273)]),
    ("PPV", [(127310, 127310)]),
    ("PTE", [(12880, 12880)]),
    ("TEL", [(8481, 8481)]),
    ("THz", [(13204, 13204)]),
    ("VII", [(8550, 8550)]),
    ("XII", [(8555, 8555)]),
    ("a/c", [(8448, 8448)]),
    ("a/s", [(8449, 8449)]),
    ("bar", [(13172, 13172)]),
    ("c/o", [(8453, 8453)]),
    ("c/u", [(8454, 8454)]),
    ("cal", [(13192, 13192)]),
    ("cm2", [(13216, 13216)]),
    ("cm3", [(13220, 13220)]),
    ("dm2", [(13176, 13176)]),
    ("dm3", [(13177, 13177)]),
    ("erg", [(13005, 13005)]),
    ("ffi", [(64259, 64259)]),
    ("ffl", [(64260, 64260)]),
    ("gal", [(13311, 13311)]),
    ("hPa", [(13169, 13169)]),
    ("iii", [(8562, 8562)]),
    ("kHz", [(13201, 13201)]),
    ("kPa", [(13226, 13226)]),
    ("km2", [(13218, 13218)]),
    ("km3", [(13222, 13222)]),
    ("log", [(13266, 13266)]),
    ("mil", [(13269, 13269)]),
    ("mm2", [(13215, 13215)]),
    ("mm3", [(13219, 13219)]),
    ("mol", [(13270, 13270)]),
    ("ms2", [(13224, 13224)]),
    ("rad", [(13229, 13229)]),
    ("vii", [(8566, 8566)]),
    ("xii", [(8571, 8571)]),
    ("(10)", [(9341, 9341)]),
    ("(11)", [(9342, 9342)]),
    ("(12)", [(9343, 9343)]),
    ("(13)", [(9344, 9344)]),
    ("(14)", [(9345, 9345)]),
    ("(15)", [(9346, 9346)]),
    ("(16)", [(9347, 9347)]),
    ("(17)", [(9348, 9348)]),
    ("(18)", [(9349, 9349)]),
    ("(19)", [(9350, 9350)]),
    ("(20)", [(9351, 9351)]),
    ("VIII", [(8551, 8551)]),
    ("a.m.", [(13250, 13250)]),
    ("kcal", [(13193, 13193)]),
    ("p.m.", [(13272, 13272)]),
    ("rads", [(13230, 13230)]),
    ("viii", [(8567, 8567)]),
    ("rads2", [(13231, 13231)])
  ]

/-- The ASCII characters in the compatibility decomposition of a character. -/
def asciiForm (character : Char) : List Char :=
  let code := character.toNat
  if code < 128 then
    [character]
  else
    match ascendingForms.find? fun (first, last, _) => first ≤ code && code ≤ last with
    | some (first, _, form) => [Char.ofNat (form + (code - first))]
    | none =>
        match constantForms.find? fun (_, runs) =>
            runs.any fun (first, last) => first ≤ code && code ≤ last with
        | some (form, _) => form.toList
        | none => []

/-- The ASCII form of a whole text. -/
def asciiForms (characters : List Char) : List Char :=
  characters.flatMap asciiForm

end DocMarkup.Text
